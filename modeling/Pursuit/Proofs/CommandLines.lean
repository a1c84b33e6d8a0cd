import Pursuit.Command
import Pursuit.Proofs.Literals

/-! # The grammar of command lines

A line is told by its words. The first one names a command, in letters of either case, and the others
have to fit it:

```text
start | load N | move I ANGLE STRENGTH | highlight I on|off | status | reconnect | quit | exit
```

* **`Gives`** — words with the command that they give.
* **`Command.Outcome`** — what becomes of a line: its command if its words give one, and otherwise
  nothing, a note on the use of the command that it names, or the line itself.
* **`Command.parse_grammar`** — every line is read so, whatever its blanks and the case of its first
  word. -/

namespace Pursuit

/-- Words with the command that they give. The first one names it, in letters of either case. -/
inductive Gives : List (List Char) → Command → Prop
  /-- Written `start`. -/
  | start {w : List Char} (hw : Named w "start") : Gives [w] .start
  /-- Written `load N`. -/
  | load {w n : List Char} {level : UInt32} (hw : Named w "load")
      (hlevel : Unsigned n level.toNat) : Gives [w, n] (.load level)
  /-- Written `move I ANGLE STRENGTH`. -/
  | move {w i a s : List Char} {index : UInt8} {angle strength : Single} (hw : Named w "move")
      (hindex : Unsigned i index.toNat) (hangle : Single.Literal a angle)
      (hstrength : Single.Literal s strength) : Gives [w, i, a, s] (.move ⟨index, angle, strength⟩)
  /-- Written `highlight I on|off`, the switch in small letters. -/
  | highlight {w i : List Char} {index : UInt8} {on : Bool} (hw : Named w "highlight")
      (hindex : Unsigned i index.toNat) :
      Gives [w, i, (if on then "on" else "off").toList] (.highlight ⟨index, on⟩)
  /-- Written `status`. -/
  | status {w : List Char} (hw : Named w "status") : Gives [w] .status
  /-- Written `reconnect`. -/
  | reconnect {w : List Char} (hw : Named w "reconnect") : Gives [w] .reconnect
  /-- Written `quit` or `exit`. -/
  | quit {w : List Char} (hw : Named w "quit" ∨ Named w "exit") : Gives [w] .quit

/-- Lines of the same words, but for the case of the letters of the first one. -/
inductive Alike : List (List Char) → List (List Char) → Prop
  /-- No words. -/
  | nil : Alike [] []
  /-- The same arguments. -/
  | cons {w w' : List Char} {args : List (List Char)}
      (hw : w.map Char.toLower = w'.map Char.toLower) : Alike (w :: args) (w' :: args)

/-- No two commands share a name. -/
theorem Usage.name_injective {u v : Usage} (h : u.name = v.name) : u = v := by
  revert h
  cases u <;> cases v <;> decide

/-- Words are alike in both directions. -/
theorem Alike.symm {ws ws' : List (List Char)} (h : Alike ws ws') : Alike ws' ws := by
  cases h with
  | nil => exact .nil
  | cons hw => exact .cons hw.symm

/-- Where words are alike, there are none on either side or some on both. -/
theorem Alike.eq_nil_iff {ws ws' : List (List Char)} (h : Alike ws ws') : ws = [] ↔ ws' = [] := by
  cases h <;> simp

/-- Where words are alike, the first ones have the same names. -/
theorem Alike.named {ws ws' : List (List Char)} (h : Alike ws ws') (name : String) :
    (∃ w ∈ ws.head?, Named w name) ↔ ∃ w ∈ ws'.head?, Named w name := by
  cases h with
  | nil => rfl
  | cons hw => simp [Named, hw]

/-- Only the letters of the first word matter, not their case. -/
theorem Gives.of_alike {ws ws' : List (List Char)} {c : Command} (h : Gives ws c)
    (halike : Alike ws ws') : Gives ws' c := by
  cases halike with
  | nil => exact h
  | @cons w w' args hw =>
    have hnamed {name : String} (hname : Named w name) : Named w' name := hw.symm.trans hname
    cases h with
    | start hname => exact .start (hnamed hname)
    | load hname hlevel => exact .load (hnamed hname) hlevel
    | move hname hindex hangle hstrength => exact .move (hnamed hname) hindex hangle hstrength
    | highlight hname hindex => exact .highlight (hnamed hname) hindex
    | status hname => exact .status (hnamed hname)
    | reconnect hname => exact .reconnect (hnamed hname)
    | quit hname => exact .quit (hname.imp hnamed hnamed)

namespace Command

/-! ## Arguments -/

/-- The words that are read as bytes are the numbers that fit into one. -/
theorem byte?_eq_some_iff {w : List Char} {b : UInt8} :
    byte? w = some b ↔ Unsigned w b.toNat := by
  simp only [byte?, Option.map_eq_some_iff, unsigned?_eq_some_iff]
  constructor
  · rintro ⟨n, ⟨hn, hlt⟩, rfl⟩
    rwa [UInt8.toNat_ofNat_of_lt' hlt]
  · intro h
    exact ⟨b.toNat, ⟨h, b.toNat_lt⟩, UInt8.ofNat_toNat⟩

/-- The words that are read as levels are the numbers that fit into 32 bits. -/
theorem level?_eq_some_iff {w : List Char} {level : UInt32} :
    level? w = some level ↔ Unsigned w level.toNat := by
  simp only [level?, Option.map_eq_some_iff, unsigned?_eq_some_iff]
  constructor
  · rintro ⟨n, ⟨hn, hlt⟩, rfl⟩
    rwa [UInt32.toNat_ofNat_of_lt' hlt]
  · intro h
    exact ⟨level.toNat, ⟨h, level.toNat_lt⟩, UInt32.ofNat_toNat⟩

/-- The words that are read as switches are on and off, as they stand. -/
theorem switch?_eq_some_iff {w : List Char} {on : Bool} :
    switch? w = some on ↔ w = (if on then "on" else "off").toList := by
  unfold switch?
  split
  · rename_i h
    subst h
    cases on <;> decide
  · split
    · rename_i h
      subst h
      cases on <;> decide
    · cases on <;> simp_all

/-- The command that a word with a usage gives, by its arguments. -/
def ofArguments? (args : List (List Char)) : Usage → Option Command
  | .start => if args.isEmpty then some start else none
  | .load => (loadLevel? args).map load
  | .move => (moveOrder? args).map move
  | .highlight => (highlightOrder? args).map highlight

/-- A command that is read is given by the words. -/
theorem gives_of_ofArguments? {w : List Char} {args : List (List Char)} {u : Usage} {c : Command}
    (hw : Named w u.name) (h : ofArguments? args u = some c) : Gives (w :: args) c := by
  cases u with
  | start =>
    obtain ⟨hargs, h⟩ := Option.ite_none_right_eq_some.1 h
    cases h
    rw [List.isEmpty_iff] at hargs
    subst hargs
    exact .start hw
  | load =>
    obtain ⟨level, hlevel, rfl⟩ := Option.map_eq_some_iff.1 h
    unfold loadLevel? at hlevel
    split at hlevel
    · -- There is one argument, and it is a level.
      exact .load hw (level?_eq_some_iff.1 hlevel)
    · cases hlevel
  | move =>
    obtain ⟨order, horder, rfl⟩ := Option.map_eq_some_iff.1 h
    unfold moveOrder? at horder
    split at horder
    · -- There are three arguments, and each of them is read.
      simp only [Option.bind_eq_bind, Option.bind_eq_some_iff, Option.pure_def,
        Option.some.injEq] at horder
      obtain ⟨index, hindex, angle, hangle, strength, hstrength, rfl⟩ := horder
      exact .move hw (byte?_eq_some_iff.1 hindex) (Single.ofLiteral?_eq_some_iff.1 hangle)
        (Single.ofLiteral?_eq_some_iff.1 hstrength)
    · cases horder
  | highlight =>
    obtain ⟨order, horder, rfl⟩ := Option.map_eq_some_iff.1 h
    unfold highlightOrder? at horder
    split at horder
    · -- There are two arguments, a place and a switch.
      simp only [Option.bind_eq_bind, Option.bind_eq_some_iff, Option.pure_def,
        Option.some.injEq] at horder
      obtain ⟨index, hindex, on, hon, rfl⟩ := horder
      rw [switch?_eq_some_iff] at hon
      subst hon
      exact .highlight hw (byte?_eq_some_iff.1 hindex)
    · cases horder

/-- **A command whose word has a usage is given by arguments that fit it.** -/
theorem ofArguments?_eq_some_iff {w : List Char} {args : List (List Char)} {u : Usage} {c : Command}
    (hw : Named w u.name) : ofArguments? args u = some c ↔ Gives (w :: args) c := by
  refine ⟨gives_of_ofArguments? hw, fun h => ?_⟩
  -- No word names two commands, so the usage tells which one it is.
  have hother {name : String} (hname : Named w name)
      (h : name = "status" ∨ name = "reconnect" ∨ name = "quit" ∨ name = "exit") : False := by
    have heq := hname.unique hw
    subst heq
    cases u <;> revert h <;> decide
  cases h with
  | start hw' =>
    obtain rfl : u = .start := Usage.name_injective (hw.unique hw')
    rfl
  | load hw' hlevel =>
    obtain rfl : u = .load := Usage.name_injective (hw.unique hw')
    simp [ofArguments?, loadLevel?, level?_eq_some_iff.2 hlevel]
  | move hw' hindex hangle hstrength =>
    obtain rfl : u = .move := Usage.name_injective (hw.unique hw')
    simp [ofArguments?, moveOrder?, byte?_eq_some_iff.2 hindex,
      Single.ofLiteral?_eq_some_iff.2 hangle, Single.ofLiteral?_eq_some_iff.2 hstrength]
  | highlight hw' hindex =>
    obtain rfl : u = .highlight := Usage.name_injective (hw.unique hw')
    simp [ofArguments?, highlightOrder?, byte?_eq_some_iff.2 hindex, switch?_eq_some_iff.2 rfl]
  | status hw' => exact (hother hw' (by simp)).elim
  | reconnect hw' => exact (hother hw' (by simp)).elim
  | quit hw' => exact (hw'.elim (hother · (by simp)) (hother · (by simp))).elim

/-- The command that stands alone. -/
def alone? (w : List Char) (args : List (List Char)) : Option Command :=
  if Named w "status" ∧ args.isEmpty then some status
  else if Named w "reconnect" ∧ args.isEmpty then some reconnect
  else if (Named w "quit" ∨ Named w "exit") ∧ args.isEmpty then some quit
  else none

/-- **Any other command is given by its word alone.** -/
theorem alone?_eq_some_iff {w : List Char} {args : List (List Char)} {c : Command}
    (hw : ∀ u : Usage, ¬ Named w u.name) : alone? w args = some c ↔ Gives (w :: args) c := by
  constructor
  · intro h
    unfold alone? at h
    simp only [List.isEmpty_iff] at h
    split_ifs at h with hstatus hreconnect hquit <;> cases h
    · obtain ⟨hname, rfl⟩ := hstatus
      exact .status hname
    · obtain ⟨hname, rfl⟩ := hreconnect
      exact .reconnect hname
    · obtain ⟨hname, rfl⟩ := hquit
      exact .quit hname
  · intro h
    cases h with
    | start hname => exact absurd hname (hw .start)
    | load hname => exact absurd hname (hw .load)
    | move hname => exact absurd hname (hw .move)
    | highlight hname => exact absurd hname (hw .highlight)
    | status hname => exact if_pos ⟨hname, rfl⟩
    | reconnect hname =>
      have hstatus : ¬ Named w "status" := fun h => absurd (h.unique hname) (by decide)
      simp [alone?, hstatus, hname]
    | quit hname =>
      -- A word that ends the program is none of the others.
      have hnot {name : String} (hquit : name ≠ "quit") (hexit : name ≠ "exit") :
          ¬ Named w name := fun h =>
        hname.elim (fun h' => hquit (h.unique h')) fun h' => hexit (h.unique h')
      have hstatus : ¬ Named w "status" := hnot (by decide) (by decide)
      have hreconnect : ¬ Named w "reconnect" := hnot (by decide) (by decide)
      simp [alone?, hstatus, hreconnect, hname]

/-! ## Lines -/

/-- What becomes of a line with given words. -/
structure Outcome (line : List Char) (ws : List (List Char))
    (r : Except CommandError (Option Command)) : Prop where
  blank : r = .ok none ↔ ws = []
  command : ∀ c, r = .ok (some c) ↔ Gives ws c
  usage : ∀ u : Usage, r = .error (.usage u) ↔
    (∃ w ∈ ws.head?, Named w u.name) ∧ ∀ c, ¬ Gives ws c
  unknown : ∀ t : String, r = .error (.unknown t) ↔
    ws ≠ [] ∧ (∀ w ∈ ws.head?, ∀ u : Usage, ¬ Named w u.name) ∧ (∀ c, ¬ Gives ws c) ∧
      Trimmed line t.toList

section

variable {line : String} {w : List Char} {args : List (List Char)}

/-- A line that begins with a command that has a usage. -/
theorem parse_of_named {u : Usage} (hwords : words line.toList = w :: args)
    (hw : Named w u.name) : parse line = fitted u (ofArguments? args u) := by
  have hlower := ofList_toLower_eq_iff.2 hw
  unfold parse
  rw [hwords]
  cases u <;> simp [hlower, Usage.name, ofArguments?]

/-- A line that begins with another word. -/
theorem parse_of_not_named (hwords : words line.toList = w :: args)
    (hw : ∀ u : Usage, ¬ Named w u.name) :
    parse line = match alone? w args with
      | some c => .ok (some c)
      | none => .error (.unknown (String.ofList (trim line.toList))) := by
  have hstart : ¬ Named w "start" := hw .start
  have hload : ¬ Named w "load" := hw .load
  have hmove : ¬ Named w "move" := hw .move
  have hhighlight : ¬ Named w "highlight" := hw .highlight
  unfold parse alone?
  rw [hwords]
  simp only [ofList_toLower_eq_iff, if_neg hstart, if_neg hload, if_neg hmove, if_neg hhighlight]
  split_ifs <;> rfl

/-- Words that give a command. -/
theorem Outcome.of_gives {ws : List (List Char)} {c : Command} (line : List Char)
    (hgives : ∀ c', some c = some c' ↔ Gives ws c') : Outcome line ws (.ok (some c)) := by
  have hc : Gives ws c := (hgives c).1 rfl
  have hne : ws ≠ [] := by
    rintro rfl
    cases hc
  refine ⟨by simpa using hne, fun c' => ?_, fun u => ?_, fun t => ?_⟩
  · rw [← hgives, Except.ok.injEq]
  · exact iff_of_false (by simp) fun h => h.2 c hc
  · exact iff_of_false (by simp) fun h => h.2.2.1 c hc

/-- Words that name a command and do not give it. -/
theorem Outcome.of_usage {u : Usage} (line : List Char) (hw : Named w u.name)
    (hgives : ∀ c, ¬ Gives (w :: args) c) : Outcome line (w :: args) (.error (.usage u)) := by
  refine ⟨by simp, fun c => iff_of_false (by simp) (hgives c), fun v => ?_, fun t => ?_⟩
  · constructor
    · intro h
      cases h
      exact ⟨⟨w, rfl, hw⟩, hgives⟩
    · rintro ⟨⟨w', hw', hnamed⟩, -⟩
      cases hw'
      rw [Usage.name_injective (hw.unique hnamed)]
  · exact iff_of_false (by simp) fun h => h.2.1 w rfl u hw

/-- Any other words. -/
theorem Outcome.of_unknown (line : List Char) (hw : ∀ u : Usage, ¬ Named w u.name)
    (hgives : ∀ c, ¬ Gives (w :: args) c) :
    Outcome line (w :: args) (.error (.unknown (String.ofList (trim line)))) := by
  refine ⟨by simp, fun c => iff_of_false (by simp) (hgives c), fun u => ?_, fun t => ?_⟩
  · refine iff_of_false (by simp) ?_
    rintro ⟨⟨w', hw', hnamed⟩, -⟩
    cases hw'
    exact hw u hnamed
  · rw [← trim_eq_iff, Except.error.injEq, CommandError.unknown.injEq, ← String.toList_inj,
      String.toList_ofList]
    constructor
    · intro ht
      refine ⟨by simp, fun w' hw' => ?_, hgives, ht⟩
      cases hw'
      exact hw
    · exact fun h => h.2.2.2

/-- What becomes of a line is decided by its words. -/
theorem outcome_parse (line : String) : Outcome line.toList (words line.toList) (parse line) := by
  cases hwords : words line.toList with
  | nil =>
    have hnone : ∀ c, ¬ Gives [] c := fun c h => by cases h
    have hparse : parse line = .ok none := by rw [parse, hwords]
    rw [hparse]
    exact ⟨by simp, by simpa using hnone, by simp, by simp⟩
  | cons w args =>
    -- A word with a usage takes its arguments, and any other has to stand alone.
    by_cases hw : ∃ u : Usage, Named w u.name
    · obtain ⟨u, hw⟩ := hw
      have hgives (c : Command) : ofArguments? args u = some c ↔ Gives (w :: args) c :=
        ofArguments?_eq_some_iff hw
      rw [parse_of_named hwords hw]
      cases harguments : ofArguments? args u with
      | some c => exact .of_gives _ fun c' => harguments ▸ hgives c'
      | none => exact .of_usage _ hw fun c h => by cases harguments ▸ (hgives c).2 h
    · have hw := not_exists.1 hw
      have hgives (c : Command) : alone? w args = some c ↔ Gives (w :: args) c :=
        alone?_eq_some_iff hw
      rw [parse_of_not_named hwords hw]
      cases halone : alone? w args with
      | some c => exact .of_gives _ fun c' => halone ▸ hgives c'
      | none => exact .of_unknown _ hw fun c h => by cases halone ▸ (hgives c).2 h

/-- **Command lines are read by their grammar.** A line spells one list of words, and they decide what
becomes of it. Neither the blanks between them nor the case of the first one matter to the command. -/
theorem parse_grammar (line : String) :
    ∃ ws, (∀ ws', Spells line.toList ws' ↔ ws' = ws) ∧ Outcome line.toList ws (parse line) ∧
      ∀ line' ws', Spells line'.toList ws' → Alike ws ws' →
        (∀ c, parse line = .ok c ↔ parse line' = .ok c) ∧
          ∀ u, parse line = .error (.usage u) ↔ parse line' = .error (.usage u) := by
  have houtcome := outcome_parse line
  refine ⟨words line.toList, fun ws' => words_eq_iff.symm.trans eq_comm, houtcome, ?_⟩
  rintro line' ws' hspells halike
  have houtcome' := outcome_parse line'
  rw [words_eq_iff.2 hspells] at houtcome'
  have hgives (c : Command) : Gives (words line.toList) c ↔ Gives ws' c :=
    ⟨fun h => h.of_alike halike, fun h => h.of_alike halike.symm⟩
  refine ⟨fun c => ?_, fun u => ?_⟩
  · cases c with
    | none => rw [houtcome.blank, houtcome'.blank, halike.eq_nil_iff]
    | some c => rw [houtcome.command, houtcome'.command, hgives]
  · simp only [houtcome.usage, houtcome'.usage, halike.named, hgives]

/-- An order to move, in other blanks and with capitals in its word. -/
theorem parse_grammar_move :
    Spells "\t MoVe\u30002 1.5\u00a0\n.5e0".toList
        (["MoVe", "2", "1.5", ".5e0"].map String.toList) ∧
      Alike (["move", "2", "1.5", ".5e0"].map String.toList)
        (["MoVe", "2", "1.5", ".5e0"].map String.toList) ∧
      parse "\t MoVe\u30002 1.5\u00a0\n.5e0" =
        .ok (some (.move ⟨2, ⟨0x3fc00000⟩, ⟨0x3f000000⟩⟩)) := by
  have hspells : Spells "\t MoVe\u30002 1.5\u00a0\n.5e0".toList
      (["MoVe", "2", "1.5", ".5e0"].map String.toList) := words_eq_iff.1 (by decide +kernel)
  have halike : Alike (["move", "2", "1.5", ".5e0"].map String.toList)
      (["MoVe", "2", "1.5", ".5e0"].map String.toList) := .cons (by decide)
  have hplain : Spells "move 2 1.5 .5e0".toList (["move", "2", "1.5", ".5e0"].map String.toList) :=
    words_eq_iff.1 (by decide +kernel)
  obtain ⟨ws, hws, -, hsame⟩ := parse_grammar "move 2 1.5 .5e0"
  rw [← (hws _).1 hplain] at hsame
  exact ⟨hspells, halike, ((hsame _ _ hspells halike).1 _).1 (by decide +kernel)⟩

end

end Command

end Pursuit
