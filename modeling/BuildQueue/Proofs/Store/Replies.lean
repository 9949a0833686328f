import BuildQueue.Proofs.Store.Mirror
import BuildQueue.Proofs.Text.Number

/-!
# Replies

The client of the database reads from the answer of a script the reply of the operation that the
script mirrors. A text that a reply holds is lost if it is empty, because the scripts say with the
empty text that there is nothing (`plain`).
-/

namespace BuildQueue

/-- A text that may be missing, where the empty text counts as missing. -/
def plainText (t : Option String) : Option String := t.filter (· ≠ "")

def PushReply.plain (r : PushReply) : PushReply :=
  { r with
    cancelled := plainText r.cancelled
    aborted := plainText r.aborted
    previous := plainText r.previous }

def SwapReply.plain : SwapReply → SwapReply
  | .applied wasActive => .applied wasActive
  | .rejected current => .rejected (plainText current)

namespace Shared

theorem nonEmpty_getD (t : Option String) : nonEmpty (t.getD "") = plainText t := by
  cases t with
  | none => rfl
  | some text => by_cases h : text = "" <;> simp [nonEmpty, plainText, Option.filter, h]

theorem listOf?_ofTexts (texts : List String) :
    (Value.ofTexts texts).listOf? Value.text? = some texts := by
  rw [Value.ofTexts, Value.listOf?]
  induction texts with
  | nil => rfl
  | cons text texts ih => simp [ih, Value.text?]

theorem size?_toString {n : Nat} (h : n < UInt64.size) : size? (toString n) = some n := by
  have hp : ∀ c ∈ Text.Decimal.digits n, c.isDigit = true := fun c hc =>
    Nat.isDigit_of_mem_toDigits (by decide) (by decide) hc
  have hsign : ∀ ds, Text.Decimal.digits n ≠ '+' :: ds := fun ds e => by
    have := hp '+' (e ▸ List.mem_cons_self)
    revert this
    decide
  unfold size?
  rw [Text.Decimal.toList_toString]
  split
  · next ds e => exact absurd e (hsign ds)
  · rw [Text.Decimal.parse?_digits]
    simp [Option.filter, h]

theorem readPush_texts {r : PushReply} (h : r.size < UInt64.size) :
    readPush (.ofTexts r.texts) = .ok r.plain := by
  unfold readPush
  rw [listOf?_ofTexts]
  have hs := size?_toString h
  simp only [PushReply.texts, orStore, bind, Except.bind, hs, nonEmpty_getD]
  cases hd : r.duplicate <;> simp [PushReply.plain, hd] <;> rfl

theorem readSwap_texts (r : SwapReply) : readSwap (.ofTexts r.texts) = .ok r.plain := by
  unfold readSwap
  rw [listOf?_ofTexts]
  cases r with
  | applied wasActive => cases wasActive <;> rfl
  | rejected current =>
    simp only [SwapReply.texts, SwapReply.plain, ← nonEmpty_getD]
    rfl

theorem readStart_texts (admitted stale : List String) :
    readStart (.array [.ofTexts admitted, .ofTexts stale]) = .ok ⟨admitted, stale⟩ := by
  unfold readStart
  simp only [listOf?_ofTexts]
  rfl

theorem readComplete_toNat (held : Bool) : readComplete (.int held.toNat) = .ok held := by
  cases held <;> rfl

theorem readStatus_optionalText (t : Option String) : readStatus (optionalText t) = .ok t := by
  cases t <;> rfl

theorem readLabels_optionalText (labels : List (Option String)) :
    readLabels (.array (labels.map optionalText)) = .ok labels := by
  have h : (labels.map optionalText).mapM Value.optional? = some labels := by
    induction labels with
    | nil => rfl
    | cons label labels ih => cases label <;> simp [ih, optionalText, Value.optional?, Value.text?]
  unfold readLabels Value.listOf?
  simp only [h]
  rfl

theorem scored?_flatMap {members : List (String × Int)}
    (h : ∀ m ∈ members, m.2.natAbs ≤ wholeBound) :
    Value.scored? (members.flatMap fun (job, score) => [.bulk job, .int score]) = some members := by
  induction members with
  | nil => rfl
  | cons m members ih =>
    obtain ⟨job, score⟩ := m
    have hs : Text.Score.toTime (.finite (score < 0) score.natAbs 0) = score :=
      Text.Score.toTime_finite (h _ List.mem_cons_self)
    have hrest := ih fun m hm => h m (List.mem_cons_of_mem _ hm)
    simp only [List.flatMap_cons, List.cons_append, List.nil_append, Value.scored?, Value.text?,
      Value.score?, hs, hrest]
    rfl

theorem readMembers_scored {members : List (String × Int)}
    (h : ∀ m ∈ members, m.2.natAbs ≤ wholeBound) :
    readMembers (.array (members.flatMap fun (job, score) => [.bulk job, .int score])) =
      .ok members := by
  unfold readMembers
  simp only [scored?_flatMap h]
  rfl

theorem entries_map (members : List (String × Int)) (label : String → Option String) :
    entries members (members.map fun (job, _) => label job) =
      members.map fun (job, since) => ⟨job, label job, since⟩ := by
  induction members with
  | nil => rfl
  | cons m members ih => exact congrArg (_ :: ·) ih

end Shared

end BuildQueue
