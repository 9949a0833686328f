/-!
# Hexadecimal digits

A digit is read in either case, so a value has two written forms and each form one value.
-/

namespace BuildQueue.Text.Hex

/-- The lowercase digit of a value. -/
def lower (d : Fin 16) : Char :=
  if d.val < 10 then Char.ofNat (48 + d.val) else Char.ofNat (87 + d.val)

/-- The uppercase digit of a value. -/
def upper (d : Fin 16) : Char :=
  if d.val < 10 then Char.ofNat (48 + d.val) else Char.ofNat (55 + d.val)

/-- The value of a digit of either case. -/
def digit? (c : Char) : Option (Fin 16) :=
  if h : 48 ≤ c.toNat ∧ c.toNat ≤ 57 then some ⟨c.toNat - 48, by omega⟩
  else if h : 97 ≤ c.toNat ∧ c.toNat ≤ 102 then some ⟨c.toNat - 87, by omega⟩
  else if h : 65 ≤ c.toNat ∧ c.toNat ≤ 70 then some ⟨c.toNat - 55, by omega⟩
  else none

theorem digit?_lower (d : Fin 16) : digit? (lower d) = some d := by
  revert d; decide

theorem digit?_upper (d : Fin 16) : digit? (upper d) = some d := by
  revert d; decide

/-- The number that digits stand for, most significant first. -/
def valueOf (ds : List (Fin 16)) : Nat := ds.foldl (fun n d => n * 16 + d.val) 0

/-- The two digits of a byte. -/
def ofByte (b : UInt8) : Fin 16 × Fin 16 :=
  have := b.toNat_lt
  (⟨b.toNat / 16, by omega⟩, ⟨b.toNat % 16, by omega⟩)

end BuildQueue.Text.Hex
