import Pursuit.Numeric.Single

/-! # Byte layouts of fixed width

A `Layout` writes a value as a fixed number of bytes and reads it back from the front of a byte
string. Layouts of records are put together from those of their fields.

* **`Layout.byte`, `Layout.word`, `Layout.single`, `Layout.flag`** — a byte; 16 bits and a
  single-precision pattern, low byte first; a truth value as the byte 0 or 1 and no other.
* **`Layout.pair`, `Layout.isoMap`** — one field after another; a record as the tuple of its
  fields.
* **`Layout.Lawful`** — what is written has the width and reads back, and only what is written is
  read. Every layout built here is lawful. -/

namespace Pursuit

/-- How values of a type stand in a fixed number of bytes. -/
structure Layout (α : Type) where
  /-- The number of bytes. -/
  width : Nat
  /-- The bytes of a value. -/
  write : α → List UInt8
  /-- The value at the front of a byte string, and the rest. -/
  read : List UInt8 → Option (α × List UInt8)

namespace Layout

variable {α β : Type}

/-- Writing and reading fit each other. -/
structure Lawful (l : Layout α) : Prop where
  /-- Every value is written in the given width. -/
  length_write : ∀ a, (l.write a).length = l.width
  /-- What is written reads back, whatever follows it. -/
  read_write : ∀ a rest, l.read (l.write a ++ rest) = some (a, rest)
  /-- Only what is written is read. -/
  eq_of_read : ∀ {bytes a rest}, l.read bytes = some (a, rest) → bytes = l.write a ++ rest

/-! ## Fields -/

/-- A single byte. -/
def byte : Layout UInt8 where
  width := 1
  write b := [b]
  read
    | b :: rest => some (b, rest)
    | [] => none

/-- A word of 16 bits, low byte first. -/
def word : Layout UInt16 where
  width := 2
  write w := [UInt8.ofNat w.toNat, UInt8.ofNat (w.toNat / 256)]
  read
    | b₀ :: b₁ :: rest => some (UInt16.ofNat (b₀.toNat + 256 * b₁.toNat), rest)
    | _ => none

/-- A single-precision pattern, low byte first. -/
def single : Layout Single where
  width := 4
  write x :=
    let n := x.bits.toNat
    [UInt8.ofNat n, UInt8.ofNat (n / 256), UInt8.ofNat (n / 65536), UInt8.ofNat (n / 16777216)]
  read
    | b₀ :: b₁ :: b₂ :: b₃ :: rest =>
      some (⟨UInt32.ofNat (b₀.toNat + 256 * b₁.toNat + 65536 * b₂.toNat + 16777216 * b₃.toNat)⟩,
        rest)
    | _ => none

/-- A truth value: the byte 1 or the byte 0. -/
def flag : Layout Bool where
  width := 1
  write b := [if b then 1 else 0]
  read
    | b :: rest => if b = 0 then some (false, rest) else if b = 1 then some (true, rest) else none
    | [] => none

/-! ## Records -/

/-- One value after another. -/
def pair (l : Layout α) (m : Layout β) : Layout (α × β) where
  width := l.width + m.width
  write p := l.write p.1 ++ m.write p.2
  read bytes :=
    (l.read bytes).bind fun (a, rest) => (m.read rest).map fun (b, rest) => ((a, b), rest)

/-- The same bytes for a type that corresponds to the given one. -/
def isoMap (l : Layout α) (forth : α → β) (back : β → α) : Layout β where
  width := l.width
  write b := l.write (back b)
  read bytes := (l.read bytes).map fun (a, rest) => (forth a, rest)

/-- The value that takes up a whole byte string. -/
def readAll (l : Layout α) (bytes : List UInt8) : Option α :=
  match l.read bytes with
  | some (a, []) => some a
  | _ => none

/-! ## Laws -/

/-- A byte is written as it is and read back. -/
theorem byte_lawful : byte.Lawful where
  length_write _ := rfl
  read_write _ _ := rfl
  eq_of_read {bytes a rest} h := by
    cases bytes with
    | nil => simp [byte] at h
    | cons b r => simp [byte] at h ⊢; exact h

/-- A word is written in two bytes, the low one first, and read back. -/
theorem word_lawful : word.Lawful where
  length_write _ := rfl
  read_write w rest := by
    have hw := w.toNat_lt
    simp only [word, List.cons_append, List.nil_append, Option.some.injEq, Prod.mk.injEq, and_true]
    apply UInt16.toNat_inj.1
    simp only [UInt8.toNat_ofNat', UInt16.toNat_ofNat']
    omega
  eq_of_read {bytes a rest} h := by
    match bytes, h with
    | b₀ :: b₁ :: r, h =>
      simp only [word, Option.some.injEq, Prod.mk.injEq] at h
      obtain ⟨rfl, rfl⟩ := h
      have h₀ := b₀.toNat_lt
      have h₁ := b₁.toNat_lt
      simp only [word, List.cons_append, List.nil_append, List.cons.injEq, and_true]
      constructor <;>
        (apply UInt8.toNat_inj.1; simp only [UInt8.toNat_ofNat', UInt16.toNat_ofNat']; omega)

/-- A number is written in four bytes, the low one first, and read back. -/
theorem single_lawful : single.Lawful where
  length_write _ := rfl
  read_write x rest := by
    have hx := x.bits.toNat_lt
    simp only [single, List.cons_append, List.nil_append, Option.some.injEq, Prod.mk.injEq,
      and_true]
    congr 1
    apply UInt32.toNat_inj.1
    simp only [UInt8.toNat_ofNat', UInt32.toNat_ofNat']
    omega
  eq_of_read {bytes a rest} h := by
    match bytes, h with
    | b₀ :: b₁ :: b₂ :: b₃ :: r, h =>
      simp only [single, Option.some.injEq, Prod.mk.injEq] at h
      obtain ⟨rfl, rfl⟩ := h
      have h₀ := b₀.toNat_lt
      have h₁ := b₁.toNat_lt
      have h₂ := b₂.toNat_lt
      have h₃ := b₃.toNat_lt
      simp only [single, List.cons_append, List.nil_append, List.cons.injEq, and_true]
      refine ⟨?_, ?_, ?_, ?_⟩ <;>
        (apply UInt8.toNat_inj.1; simp only [UInt8.toNat_ofNat', UInt32.toNat_ofNat']; omega)

/-- A flag is written as 0 or 1, and nothing else is read as one. -/
theorem flag_lawful : flag.Lawful where
  length_write _ := rfl
  read_write b _ := by cases b <;> rfl
  eq_of_read {bytes a rest} h := by
    cases bytes with
    | nil => simp [flag] at h
    | cons b r =>
      simp only [flag] at h
      split at h
      · simp_all [flag]
      · split at h <;> simp_all [flag]

/-- Records one after the other are read back if both are. -/
theorem pair_lawful {l : Layout α} {m : Layout β} (hl : l.Lawful) (hm : m.Lawful) :
    (l.pair m).Lawful where
  length_write p := by simp [pair, hl.length_write, hm.length_write]
  read_write p rest := by simp [pair, List.append_assoc, hl.read_write, hm.read_write]
  eq_of_read {bytes p rest} h := by
    simp only [pair, Option.bind_eq_some_iff, Option.map_eq_some_iff] at h
    obtain ⟨⟨a, r⟩, ha, ⟨b, r'⟩, hb, heq⟩ := h
    obtain ⟨rfl, rfl⟩ := Prod.mk.inj heq
    simp only at hb
    simp [hl.eq_of_read ha, hm.eq_of_read hb, pair]

/-- Another form of a record is read back if none of it is lost. -/
theorem isoMap_lawful {l : Layout α} (hl : l.Lawful) {forth : α → β} {back : β → α}
    (forth_back : ∀ b, forth (back b) = b) (back_forth : ∀ a, back (forth a) = a) :
    (l.isoMap forth back).Lawful where
  length_write b := hl.length_write _
  read_write b rest := by simp [isoMap, hl.read_write, forth_back]
  eq_of_read {bytes b rest} h := by
    simp only [isoMap, Option.map_eq_some_iff] at h
    obtain ⟨⟨a, r⟩, ha, heq⟩ := h
    obtain ⟨rfl, rfl⟩ := Prod.mk.inj heq
    simp [hl.eq_of_read ha, isoMap, back_forth]

end Layout

end Pursuit
