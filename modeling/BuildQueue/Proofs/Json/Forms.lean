import BuildQueue.Json.Reader
import BuildQueue.Proofs.Json.RoundTrip

/-!
# Forms that are read back

A form writes values as JSON and a reader takes them from it. They belong together if the reader
gives back what the form has written and the text of the form says all of it (`Codec`); then a value
goes through text unharmed (`Codec.parse?_compact`). Records are read back by their names
(`fields?_record`) and choices by their tags (`tagged?_record`).
-/

namespace BuildQueue.Json

/-- The reader gives back what the form has written, and so it does when there is a text between
them. -/
structure Codec {α : Type} (form : α → Json) (read : Json → Option α) : Prop where
  printable : ∀ a, (form a).Printable
  read_form : ∀ a, read (form a) = some a

namespace Codec

variable {α : Type} {form : α → Json} {read : Json → Option α}

theorem parse?_compact (h : Codec form read) (a : α) :
    (parse? (form a).compact).bind read = some a := by
  rw [Json.parse?_compact (h.printable a), Option.bind_some, h.read_form]

section Lists

variable (h : Codec form read) (as : List α)
include h

theorem printable_array : (array (as.map form)).Printable := by
  show Printable.elements _
  induction as with
  | nil => trivial
  | cons a as ih => exact ⟨h.printable a, ih⟩

theorem list?_array : list? read (array (as.map form)) = some as := by
  show (as.map form).mapM read = some as
  induction as with
  | nil => rfl
  | cons a as ih => simp [h.read_form, ih]

end Lists

section Options

variable (h : Codec form read) (hnull : ∀ a, form a ≠ null)
include h

theorem printable_option (a : Option α) : (option form a).Printable := by
  cases a with
  | none => trivial
  | some a => exact h.printable a

include hnull in
/-- A value that may be missing is read back, if none is written as null. -/
theorem optional?_option (a : Option α) : optional? read (some (option form a)) = some a := by
  cases a with
  | none => rfl
  | some a =>
    unfold optional? Json.option
    split
    · next e => cases e
    · next e => exact absurd (Option.some.inj e) (hnull a)
    · next e =>
      obtain rfl := Option.some.inj e
      rw [h.read_form, Option.map_some]

end Options

end Codec

/-! ## Scalars -/

@[simp] theorem printable_text (s : String) : (text s).Printable := rfl

@[simp] theorem printable_nat (n : Nat) : (nat n).Printable := by rintro ⟨⟩

@[simp] theorem printable_bool (b : Bool) : (bool b).Printable := trivial

@[simp] theorem text?_text (s : String) : (text s).text? = some s := rfl

@[simp] theorem bool?_bool (b : Bool) : (bool b).bool? = some b := rfl

@[simp] theorem natBelow?_nat {bound n : Nat} (h : n < bound) :
    (nat n).natBelow? bound = some n :=
  if_pos h

@[simp] theorem word?_nat (n : UInt64) : (nat n.toNat).word? = some n := by
  rw [word?, natBelow?_nat n.toNat_lt, Option.map_some, UInt64.ofNat_toNat]

@[simp] theorem isSound_text (room : Nat) (s : String) : (text s).isSound room = true := rfl

@[simp] theorem choice?_text (s : String) : (text s).choice? = some s := rfl

theorem codec_text : Codec text text? := ⟨printable_text, text?_text⟩

theorem codec_word : Codec (fun n : UInt64 => nat n.toNat) word? :=
  ⟨fun n => printable_nat n.toNat, word?_nat⟩

/-! ## Records -/

theorem printable_record {members : List (String × Json)} (h : ∀ m ∈ members, m.2.Printable) :
    (record members).Printable := by
  show Printable.members _
  induction members with
  | nil => trivial
  | cons m members ih =>
    exact ⟨rfl, h m List.mem_cons_self, ih fun m' hm' => h m' (List.mem_cons_of_mem _ hm')⟩

theorem member?_of_mem {members : List (String × Json)} (h : (members.map Prod.fst).Nodup)
    {m : String × Json} (hm : m ∈ members) :
    member? (members.map fun (name, value) => (some name, value)) m.1 = some m.2 := by
  induction members with
  | nil => cases hm
  | cons first members ih =>
    obtain ⟨hfirst, hrest⟩ := List.nodup_cons.1 h
    rcases List.mem_cons.1 hm with rfl | hm
    · simp [member?]
    · have hne : first.1 ≠ m.1 := fun e => hfirst (e ▸ List.mem_map_of_mem hm)
      have hread := ih hrest hm
      unfold member? at hread ⊢
      rw [List.map_cons, List.find?_cons_of_neg (by simp [hne]), hread]

theorem countP_name (members : List (String × Json)) (name : String) :
    (members.map fun (name, value) => ((some name, value) : JsonString × Json)).countP
      (·.1 = some name) = (members.map Prod.fst).count name := by
  rw [List.count, List.countP_map, List.countP_map]
  congr 1
  funext m
  by_cases h : m.1 = name <;> simp [h]

/-- The fields of a record are found under its names. -/
@[simp] theorem fields?_record {members : List (String × Json)} {names : List String}
    (hmembers : members.map Prod.fst = names) (h : names.Nodup) :
    (record members).fields? names = some (members.map (some ·.2)) := by
  subst hmembers
  have hnames : namesFields (members.map fun (name, value) => (some name, value))
      (members.map Prod.fst) = true := by
    simp only [namesFields, countP_name, Bool.and_eq_true, List.all_eq_true, decide_eq_true_eq]
    refine ⟨fun m hm => ?_, fun name _ => List.nodup_iff_count.1 h name⟩
    obtain ⟨_, _, rfl⟩ := List.mem_map.1 hm
    rfl
  rw [record, fields?, if_pos hnames, List.map_map]
  exact congrArg some (List.map_congr_left fun m hm => member?_of_mem h hm)

/-- The fields of a record whose first member is a tag are those of the choice. -/
@[simp] theorem tagged?_record {tag value : String} {members : List (String × Json)} {level : Nat}
    (htag : tag ∉ members.map Prod.fst)
    (hsound : ∀ m ∈ members, m.2.isSound (maxNesting - level) = true) :
    (record ((tag, .text value) :: members)).tagged? tag level = some (value, record members) := by
  have hrest : (((tag, Json.text value) :: members).map fun (name, value) =>
      ((some name, value) : JsonString × Json)).filter (·.1 ≠ some tag) =
        members.map fun (name, value) => (some name, value) := by
    rw [List.map_cons, List.filter_cons_of_neg (by simp), List.filter_eq_self]
    intro m hm
    obtain ⟨field, hfield, rfl⟩ := List.mem_map.1 hm
    have hne : field.1 ≠ tag := fun e => htag (e ▸ List.mem_map_of_mem hfield)
    simpa using hne
  have hnames : namesFields (((tag, Json.text value) :: members).map fun (name, value) =>
      (some name, value)) [tag] = true := by
    simp only [namesFields, List.all_cons, List.all_nil, Bool.and_true, countP_name,
      Bool.and_eq_true, List.all_eq_true, decide_eq_true_eq]
    refine ⟨fun m hm => ?_, ?_⟩
    · obtain ⟨_, _, rfl⟩ := List.mem_map.1 hm
      rfl
    · simp [List.count_eq_zero.2 htag]
  have hall : (members.map fun (name, value) => ((some name, value) : JsonString × Json)).all
      (·.2.isSound (maxNesting - level)) = true := by
    rw [List.all_map]
    exact List.all_eq_true.2 hsound
  unfold record tagged?
  dsimp only
  rw [hrest, hnames, hall]
  simp [member?, Json.text, text?]

end BuildQueue.Json
