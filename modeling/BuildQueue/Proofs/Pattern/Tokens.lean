import BuildQueue.Proofs.Pattern.Steps

/-!
# The parts of a pattern and what stands behind it

Escapes, classes, repetitions and the starts of groups are read alike whatever stands behind the
pattern. Each of these readers has a lemma on what it takes and one on how exact it is.
-/

namespace BuildQueue.Pattern

open Reader

variable {α β : Type} {N : Nat}

/-! ## Escapes -/

theorem hexDigits_whole {count : Nat} (h : ∀ n, Still (hexDigits count n)) (n : Nat) :
    Whole (hexDigits (count + 1) n) := by
  refine .peek fun x => ?_
  split
  · exact bumpSkip_token.bind fun _ => h _
  · exact .failure

theorem hexDigits_still (count n : Nat) : Still (hexDigits count n) := by
  induction count generalizing n with
  | zero => exact .pure n
  | succ count ih => exact (hexDigits_whole ih n).still

/-- The number that is read in braces; there has to be a digit. -/
theorem hexBrace_end (n : Option Nat) :
    Still (match n with | some n => pure n | _ => failure : Reader Nat) := by
  cases n with
  | none => exact .failure
  | some n => exact .pure n

theorem hexBrace_closes (fuel : Nat) (n : Option Nat) : Closes (hexBrace fuel n) := by
  induction fuel generalizing n with
  | zero => exact ⟨.failure, fun _ _ => rfl⟩
  | succ fuel ih =>
    refine .peek fun x => ?_
    split
    · exact bumpSkip_takes.first fun _ => (hexBrace_end n).takes
    · split
      · exact bumpSkip_takes.first fun _ => (ih _).takes.zero
      · exact .failure

theorem hexBrace_exact {N fuel fuel' : Nat} (n : Option Nat) (h : N < fuel') :
    Exact 0 N (hexBrace fuel n) (hexBrace fuel' n) := by
  induction fuel generalizing N fuel' n with
  | zero => exact .failure
  | succ fuel ih =>
    obtain _ | fuel' := fuel'
    · omega
    refine .peek (hexBrace_closes (fuel + 1) n).takes fun x => ?_
    split
    · exact (bumpSkip_exact N).still bumpSkip_takes fun _ => hexBrace_end n
    · split
      · exact (bumpSkip_exact N).bind bumpSkip_takes (fun _ => (hexBrace_closes _ _).takes.zero)
          (fun _ => (hexBrace_closes _ _).starved.calm) fun _ M _ => ih _ (by omega)
      · exact .failure

theorem hexEscape_whole (count : Nat) : Whole (hexEscape (count + 1)) := by
  refine .bumpSkipMore fun _ => .peek fun x => ?_
  split
  · refine bumpSkip_token.bind fun _ => (Whole.loop (L := fun n => hexBrace n none)
      (fun n => hexBrace_closes n none) (hexBrace_exact none) fun n => ?_).still
    cases charOf? n with
    | none => exact .failure
    | some c => exact .pure _
  · refine ((hexDigits_whole (hexDigits_still _) _).bind fun n => ?_).token
    cases charOf? n with
    | none => exact .failure
    | some c => exact .pure _

theorem upToBrace_closes (fuel : Nat) (taken : List Char) : Closes (upToBrace fuel taken) := by
  induction fuel generalizing taken with
  | zero => exact ⟨.failure, fun _ _ => rfl⟩
  | succ fuel ih =>
    refine .peek fun x => ?_
    split
    · exact bump_takes.first fun _ => .pure _
    · exact bumpSkip_takes.first fun _ => (ih _).takes.zero

theorem upToBrace_exact {N fuel fuel' : Nat} (taken : List Char) (h : N < fuel') :
    Exact 0 N (upToBrace fuel taken) (upToBrace fuel' taken) := by
  induction fuel generalizing N fuel' taken with
  | zero => exact .failure
  | succ fuel ih =>
    obtain _ | fuel' := fuel'
    · omega
    refine .peek (upToBrace_closes (fuel + 1) taken).takes fun x => ?_
    split
    · exact (Token.bump (.pure _)).exact N
    · exact (bumpSkip_exact N).bind bumpSkip_takes (fun _ => (upToBrace_closes _ _).takes.zero)
        (fun _ => (upToBrace_closes _ _).starved.calm) fun _ M _ => ih _ (by omega)

theorem propertyEscape_whole (negated : Bool) : Whole (propertyEscape negated) := by
  refine .bumpSkipMore fun _ => .peek fun x => ?_
  split
  · refine bumpSkip_token.bind fun _ => (Whole.loop (L := fun n => upToBrace n [])
      (fun n => upToBrace_closes n []) (upToBrace_exact []) fun text => ?_).still
    cases propertyOf? text with
    | none => exact .failure
    | some p => exact .pure _
  · refine .require (.bump ?_)
    cases Property.named? [x] with
    | none => exact .failure
    | some set => exact .pure _

theorem wordName_takes (fuel : Nat) (taken : List Char) : Takes 0 (wordName fuel taken) := by
  induction fuel generalizing taken with
  | zero => exact .failure
  | succ fuel ih =>
    refine .peek? fun o => ?_
    cases o with
    | none => exact .pure _
    | some x =>
      dsimp only
      split
      · exact bumpSkip_takes.zero.first fun _ => ih _
      · exact .pure _

theorem wordName_steady {N fuel fuel' : Nat} (taken : List Char) (h : N < fuel') :
    Steady N (wordName fuel taken) (wordName fuel' taken) := by
  induction fuel generalizing N fuel' taken with
  | zero => exact .failure
  | succ fuel ih =>
    obtain _ | fuel' := fuel'
    · omega
    refine .peek? (wordName_takes (fuel + 1) taken) fun x => ?_
    dsimp only
    split
    · exact (bumpSkip_exact N).steady.bind bumpSkip_takes (fun _ => wordName_takes _ _)
        fun _ M _ => ih _ (by omega)
    · exact .pure _

/-- Fails at the brace behind the edge of a word where neither a name nor a number can follow. What
reads on from there fails as well, but sees what stands behind the pattern first. -/
def settle : Primitive → Reader Primitive
  | .anchor .wordEdge => do
    if (← peek?) = some '\x7b' then
      require ((← peekAfter?).any fun x => x ≠ ')' && x ≠ '#')
    return .anchor .wordEdge
  | p => return p

/-- Whether a character begins something in braces, so that the braces belong to the pattern. -/
def begins (o : Option Char) : Bool := o.any fun x => x ≠ ')' && x ≠ '#'

theorem run_settle_edge (c : Cursor) : (settle (.anchor .wordEdge)).run c =
    if c.rest.head? = some '\x7b' ∧ begins (after? c) = false then none
    else some (.anchor .wordEdge, c) := by
  rw [settle, run_peek?_bind]
  by_cases hb : c.rest.head? = some '\x7b'
  · rw [if_pos hb, run_peekAfter?_bind]
    show (require (begins (after? c)) >>= fun _ => pure _ : Reader Primitive).run c = _
    cases begins (after? c) with
    | false => rw [if_pos ⟨hb, rfl⟩]; rfl
    | true => rw [if_neg fun h => nomatch h.2]; rfl
  · rw [if_neg hb, if_neg fun h => hb h.1]
    rfl

theorem settle_of_ne {p : Primitive} (h : p ≠ .anchor .wordEdge) : settle p = pure p := by
  match p, h with
  | .anchor .wordEdge, h => exact absurd rfl h
  | .literal .., _ | .letter .., _ | .property .., _ => rfl
  | .anchor .lineStart, _ | .anchor .lineEnd, _ | .anchor .textStart, _ => rfl
  | .anchor .textEnd, _ | .anchor .noWordEdge, _ | .anchor .wordStart, _ => rfl
  | .anchor .wordEnd, _ | .anchor .noWordBefore, _ | .anchor .noWordAfter, _ => rfl

theorem settle_still (p : Primitive) : Still (settle p) := by
  by_cases h : p = .anchor .wordEdge
  · subst h
    have hrun {c d : Cursor} {a : Primitive}
        (h : (settle (.anchor .wordEdge)).run c = some (a, d)) : c = d := by
      rw [run_settle_edge] at h
      split at h
      · nomatch h
      · exact congrArg Prod.snd (Option.some.inj h)
    refine Plain.still (fun c t _ ht => ?_) (fun c a d h => ?_) fun c a d _ h => ?_
    · rw [run_settle_edge, run_settle_edge]
      by_cases hc : c.rest = []
      · have htail : t.head? ≠ some '\x7b' := ht.head_ne (by decide) (by decide)
        simp [hc, htail]
      · have hafter : begins (after? (c.before t)) = begins (after? c) :=
          after?_congr (by rintro x (rfl | rfl) <;> rfl) ht hc
        obtain ⟨x, r, hr⟩ := List.exists_cons_of_ne_nil hc
        rw [hafter]
        simp only [Cursor.rest_before, hr, List.cons_append, List.head?_cons]
        split <;> rfl
    · obtain rfl := hrun h
      exact ⟨List.suffix_refl _, fun _ => Nat.le_refl _⟩
    · rw [hrun h]
  · rw [settle_of_ne h]
    exact .pure p

theorem edgeName_whole : Whole edgeName := by
  refine .steadyLoop (L := fun n => wordName n []) (fun n => wordName_takes n [])
    (wordName_steady []) fun name => .require (.bump ?_)
  repeat' split
  all_goals first | exact .pure _ | exact .failure

/-- The kind of an edge by what follows its brace. -/
def edgeAfter (o : Option Char) : Reader Primitive :=
  if o.any fun x => x.isAlpha || x = '-' then
    bumpSkip >>= fun _ => edgeName >>= fun kind => settle (.anchor kind)
  else require (begins o) >>= fun _ => pure (.anchor .wordEdge)

theorem run_bumpSkip (c : Cursor) :
    ∃ e : Cursor, bumpSkip.run c = some ((), e) ∧ e.rest.head? = after? c := by
  obtain ⟨r, v, n⟩ := c
  cases v with
  | false => exact ⟨⟨r.drop 1, false, n⟩, rfl, rfl⟩
  | true => exact ⟨⟨afterBlanks false (r.drop 1), true, n⟩, rfl, rfl⟩

/-- What the kind of an edge is read from, behind a brace. -/
theorem run_edgeKind {c : Cursor} (hc : c.rest.head? = some '\x7b') : edgeKind.run c =
    (after? c).bind fun x =>
      if x.isAlpha || x = '-' then (bumpSkip >>= fun _ => edgeName).run c
      else some (.wordEdge, c) := by
  obtain ⟨e, he, hx⟩ := run_bumpSkip c
  have hedge : edgeKind.run c = (bumpSkipMore >>= fun _ => peek >>= fun x =>
      if !(x.isAlpha || x = '-') then set c >>= fun _ => pure .wordEdge else edgeName).run c := by
    rw [edgeKind, run_peek?_bind, if_neg (not_not_intro hc)]
    rfl
  rw [hedge, ← hx, StateT.run_bind, run_bumpSkipMore, he]
  obtain ⟨_ | ⟨x, r⟩, v, n⟩ := e
  · rfl
  · show StateT.run (if _ then _ else _) _ = if _ then StateT.run _ c else _
    cases hname : x.isAlpha || x = '-'
    · rfl
    · rw [StateT.run_bind, he]
      rfl

/-- Once it is settled, an edge of a word needs no way back: what follows the brace is looked at
first. -/
theorem edgeKind_settle : (edgeKind >>= fun kind => settle (.anchor kind)) =
    peek? >>= fun o =>
      if o = some '\x7b' then peekAfter? >>= edgeAfter else pure (.anchor .wordEdge) := by
  funext c
  show (edgeKind >>= fun kind => settle (.anchor kind)).run c = StateT.run _ c
  rw [run_peek?_bind]
  by_cases hc : c.rest.head? = some '\x7b'
  · rw [if_pos hc, run_peekAfter?_bind, StateT.run_bind, run_edgeKind hc]
    cases hx : after? c with
    | none => rfl
    | some x =>
      rw [edgeAfter, Option.any_some, Option.bind_some]
      by_cases hname : (x.isAlpha || x = '-') = true
      · rw [if_pos hname, if_pos hname]
        simp only [StateT.run_bind, Option.bind_eq_bind, Option.bind_assoc]
      · rw [if_neg hname, if_neg hname]
        show (settle (.anchor .wordEdge)).run c = _
        rw [run_settle_edge, hx]
        cases begins (some x) with
        | false => rw [if_pos ⟨hc, rfl⟩]; rfl
        | true => rw [if_neg fun h => nomatch h.2]; rfl
  · rw [if_neg hc, StateT.run_bind, edgeKind, run_peek?_bind, if_pos hc]
    show (settle (.anchor .wordEdge)).run c = _
    rw [run_settle_edge, if_neg fun h => hc h.1]
    rfl

theorem edgeAfter_takes (o : Option Char) : Takes 0 (edgeAfter o) := by
  unfold edgeAfter
  split
  · exact bumpSkip_takes.zero.first fun _ =>
      (edgeName_whole.bind fun _ => settle_still _).still.takes
  · exact (Still.require _).takes.first fun _ => .pure _

theorem edgeAfter_exact (N : Nat) (o : Option Char) : Exact 1 N (edgeAfter o) (edgeAfter o) := by
  unfold edgeAfter
  split
  · exact (bumpSkip_token.bind fun _ => (edgeName_whole.bind fun _ => settle_still _).still).exact N
  · exact .require (.pure _)

theorem edgeKind_still : Still (edgeKind >>= fun kind => settle (.anchor kind)) := by
  rw [edgeKind_settle]
  refine .peek? (.pure _) rfl rfl (fun x => ?_) fun x N => ?_
  · split
    · exact .second (Nat.zero_le 1) peekAfter?_takes edgeAfter_takes
    · exact .pure _
  · split
    · have heq (y : Char) (hy : y = ')' ∨ y = '#') : edgeAfter (some y) = edgeAfter none := by
        rcases hy with rfl | rfl <;> rfl
      exact .peekAfter? heq heq edgeAfter_takes (edgeAfter_exact N)
    · exact .pure _

theorem escape_settle_token : Token (escape >>= settle) := by
  rw [escape, bind_assoc]
  simp only [bind_assoc]
  refine .bump (Whole.peek fun x => ?_).still
  split
  · exact ((hexEscape_whole 1).bind settle_still).token
  · exact ((hexEscape_whole 3).bind settle_still).token
  · exact ((hexEscape_whole 7).bind settle_still).token
  · exact ((propertyEscape_whole false).bind settle_still).token
  · exact ((propertyEscape_whole true).bind settle_still).token
  · rw [bind_assoc]
    refine .bump ?_
    split
    · exact .bind (.pure _) settle_still
    · -- Each other letter stands for one thing, but for the edge of a word.
      split
      case h_15 =>
        rw [bind_assoc]
        exact edgeKind_still
      all_goals first | exact .bind (.pure _) settle_still | exact .bind .failure settle_still

/-- Settling an escape changes nothing for a reader that fails where it would. -/
theorem escape_bind {f : Primitive → Reader β}
    (hf : ∀ c : Cursor, c.rest.head? = some '\x7b' → begins (after? c) = false →
      (f (.anchor .wordEdge)).run c = none) :
    escape >>= f = (escape >>= settle) >>= f := by
  have hsettle (p : Primitive) : settle p >>= f = f p := by
    by_cases hp : p = .anchor .wordEdge
    · subst hp
      funext c
      show (settle _ >>= f).run c = (f _).run c
      rw [StateT.run_bind, run_settle_edge]
      split
      · next h => exact (hf c h.1 h.2).symm
      · rfl
    · rw [settle_of_ne hp, pure_bind]
  rw [bind_assoc]
  exact congrArg (escape >>= ·) (funext fun p => (hsettle p).symm)

/-! ## Classes -/

theorem classItem_settle_whole : Whole (classItem >>= settle) := by
  rw [classItem, bind_assoc]
  refine .peek fun x => ?_
  split
  · exact escape_settle_token
  · rw [bind_assoc]
    exact .bump (.bind (.pure _) settle_still)

/-- No edge of a word stands in a class. -/
theorem classItem_bind {f : Primitive → Reader β}
    (hf : ∀ c : Cursor, (f (.anchor .wordEdge)).run c = none) :
    classItem >>= f = (classItem >>= settle) >>= f := by
  rw [classItem, bind_assoc, bind_assoc, bind_assoc]
  congr 1
  funext x
  split
  · rw [escape_bind fun c _ _ => hf c, bind_assoc]
  · simp only [bind_assoc, pure_bind, settle]

theorem classItem_stable {f : Primitive → Reader β}
    (hf : ∀ c : Cursor, (f (.anchor .wordEdge)).run c = none) (h : ∀ p, Stable 0 (f p)) :
    Stable 1 (classItem >>= f) := by
  rw [classItem_bind hf]
  exact classItem_settle_whole.token.stable.bind h

theorem classRange_stable : Stable 1 classRange := by
  refine classItem_stable (fun c => ?_) fun p => ?_
  · refine Reader.bind_eq_none (fun _ => Reader.bind_eq_none fun x => Reader.bind_eq_none
      fun next d => ?_) c
    dsimp only
    split
    · rfl
    · exact Reader.bind_eq_none (fun _ => Reader.bind_eq_none fun q e => rfl) d
  · refine skip_still.stable.bind fun _ => .peek fun x => .peekAfter? ?_ fun o => ?_
    · rintro y (rfl | rfl) <;> rfl
    · dsimp only
      split
      · cases p.toClass? with
        | none => exact .failure
        | some item => exact .pure item
      · refine bumpSkipMore_stable.zero.bind fun _ =>
          (classItem_stable (fun c => ?_) fun q => ?_).zero
        · cases p <;> rfl
        · split
          · exact (Still.require _).stable.bind fun _ => .pure _
          · exact .failure

theorem classRange_starved : Starved classRange := (peek_starved.bind).bind

theorem leadingHyphens_takes (fuel : Nat) (items : List ClassNode) :
    Takes 0 (leadingHyphens fuel items) := by
  induction fuel generalizing items with
  | zero => exact .failure
  | succ fuel ih =>
    refine .peek fun x => ?_
    split
    · exact bumpSkipMore_closes.takes.zero.first fun _ => ih _
    · exact .pure _

theorem leadingHyphens_steady {N fuel fuel' : Nat} (items : List ClassNode) (h : N < fuel') :
    Steady N (leadingHyphens fuel items) (leadingHyphens fuel' items) := by
  induction fuel generalizing N fuel' items with
  | zero => exact .failure
  | succ fuel ih =>
    obtain _ | fuel' := fuel'
    · omega
    refine .peek (leadingHyphens_takes (fuel + 1) items) fun x => ?_
    split
    · exact (bumpSkipMore_steady N).bind bumpSkipMore_closes.takes
        (fun _ => leadingHyphens_takes _ _) fun _ M _ => ih _ (by omega)
    · exact .pure _

theorem classStart_stable : Stable 1 classStart := by
  refine bumpSkipMore_stable.bind fun _ => .peek fun x => ?_
  have hrest (negated : Bool) : Stable 0 (do
      let items ← leadingHyphens ((← get).rest.length + 1) []
      if items.isEmpty && (← peek) = ']' then
        bumpSkipMore
        return (negated, [.literal ']' false])
      return (negated, items) : Reader (Bool × List ClassNode)) := by
    refine .loop (L := fun n => leadingHyphens n []) (fun n => leadingHyphens_takes n [])
      (leadingHyphens_steady []) fun items => .peek fun x => ?_
    split
    · exact bumpSkipMore_stable.zero.bind fun _ => .pure _
    · exact .pure _
  dsimp only
  split
  · exact bumpSkipMore_stable.zero.bind fun _ => hrest _
  · exact hrest _

theorem classStart_starved : Starved classStart := bumpSkipMore_closes.starved.bind

/-- No class is named with a parenthesis or a comment. -/
theorem asciiClass?_eq_none {name : List Char} (h : ')' ∈ name ∨ '#' ∈ name) :
    asciiClass? name = none := by
  rw [asciiClass?, Option.map_eq_none_iff, List.find?_eq_none]
  intro e he heq
  obtain rfl := of_decide_eq_true heq
  revert h
  simp only [List.mem_cons, List.not_mem_nil, or_false] at he
  rcases he with rfl | rfl | rfl | rfl | rfl | rfl | rfl | rfl | rfl | rfl | rfl | rfl | rfl | rfl
  all_goals decide

theorem run_namedClass? (c : Cursor) : namedClass?.run c =
    (className c.rest).elim (some (none, c)) fun p => some (some p.1, { c with rest := p.2 }) := by
  rw [namedClass?, StateT.run_bind, StateT.run_get, Option.pure_def, Option.bind_eq_bind,
    Option.bind_some]
  cases className c.rest <;> rfl

theorem takeWhile_colon {p q : List Char} (hp : ':' ∉ p) (hq : q.takeWhile (· ≠ ':') = []) :
    (p ++ q).takeWhile (· ≠ ':') = p := by
  rw [List.takeWhile_append_of_pos fun x hx => decide_eq_true (ne_of_mem_of_not_mem hx hp), hq,
    List.append_nil]

theorem nameEnd_colon {negated : Bool} {p q : List Char} (hp : ':' ∉ p) :
    nameEnd negated (p ++ ':' :: q) = (asciiClass? p).bind fun set =>
      afterName negated set (':' :: q) := by
  rw [nameEnd, takeWhile_colon hp (by simp), List.drop_left]

theorem nameEnd_of_not_mem {negated : Bool} {l : List Char} (hl : ':' ∉ l) :
    nameEnd negated l = none := by
  rw [nameEnd, ← List.append_nil l, takeWhile_colon hl rfl, List.drop_left]
  cases asciiClass? l <;> rfl

/-- Behind a colon a tail plays no role; without a colon there is no name, tail or not. -/
theorem nameEnd_append {negated : Bool} {l t : List Char} (ht : Tail t) :
    nameEnd negated (l ++ t) = (nameEnd negated l).map fun p => (p.1, p.2 ++ t) := by
  by_cases hl : ':' ∈ l
  · obtain ⟨p, q, rfl, hp⟩ := List.eq_append_cons_of_mem hl
    rw [List.append_assoc, List.cons_append, nameEnd_colon hp, nameEnd_colon hp]
    cases asciiClass? p with
    | none => rfl
    | some set =>
      rcases q with _ | ⟨x, q⟩
      · rcases ht.cases with rfl | ⟨u, rfl⟩ | ⟨u, rfl⟩ <;> rfl
      · simp only [Option.bind_some, List.cons_append]
        unfold afterName
        split <;> simp_all
  · rw [nameEnd_of_not_mem hl]
    by_cases hlt : ':' ∈ l ++ t
    · -- The name would reach into the tail.
      have hmem : ':' ∈ t := (List.mem_append.mp hlt).resolve_left hl
      obtain ⟨p, q, rfl, hp⟩ := List.eq_append_cons_of_mem hmem
      have hlp : ':' ∉ l ++ p := by simp [hl, hp]
      have hnone : asciiClass? (l ++ p) = none := by
        rcases p with _ | ⟨x, p⟩
        · rcases ht.head ':' rfl with h | h <;> nomatch h
        · refine asciiClass?_eq_none ?_
          rcases ht.head x rfl with rfl | rfl <;> simp
      rw [← List.append_assoc, nameEnd_colon hlp, hnone]
      rfl
    · rw [nameEnd_of_not_mem hlt]
      rfl

theorem caret_append {l t : List Char} (ht : Tail t) :
    caret (l ++ t) = ((caret l).1, (caret l).2 ++ t) := by
  rcases l with _ | ⟨x, l⟩
  · rcases ht.cases with rfl | ⟨u, rfl⟩ | ⟨u, rfl⟩ <;> rfl
  · rw [List.cons_append]
    unfold caret
    split <;> simp_all

theorem className_append {l t : List Char} (ht : Tail t) :
    className (l ++ t) = (className l).map fun p => (p.1, p.2 ++ t) := by
  rcases l with _ | ⟨x, _ | ⟨y, l⟩⟩
  · rcases ht.cases with rfl | ⟨u, rfl⟩ | ⟨u, rfl⟩ <;> rfl
  · have hnone : className [x] = none := by
      unfold className
      split <;> simp_all
    rw [hnone]
    rcases ht.cases with rfl | ⟨u, rfl⟩ | ⟨u, rfl⟩
    all_goals
      unfold className
      split <;> simp_all
  · by_cases hxy : x = '[' ∧ y = ':'
    · obtain ⟨rfl, rfl⟩ := hxy
      show nameEnd (caret (l ++ t)).1 (caret (l ++ t)).2 = Option.map _ (nameEnd _ _)
      rw [caret_append ht, nameEnd_append ht]
    · have hnone (r : List Char) : className (x :: y :: r) = none := by
        unfold className
        split
        · next heq =>
          obtain ⟨rfl, rfl, -⟩ : x = '[' ∧ y = ':' ∧ _ := by simpa using heq
          exact absurd ⟨rfl, rfl⟩ hxy
        · rfl
      rw [List.cons_append, List.cons_append, hnone, hnone]
      rfl

theorem namedClass?_plain : Plain 0 namedClass? := by
  intro c t _ ht
  rw [run_namedClass?, run_namedClass?, Cursor.rest_before, className_append ht]
  cases className c.rest <;> rfl

theorem nameEnd_suffix {negated : Bool} {l after : List Char} {item : ClassNode}
    (h : nameEnd negated l = some (item, after)) : after <:+ l := by
  obtain ⟨set, -, h⟩ := Option.bind_eq_some_iff.mp h
  unfold afterName at h
  split at h
  · next heq =>
    obtain ⟨-, rfl⟩ := Prod.mk.inj (Option.some.inj h)
    exact (List.suffix_append [':', ']'] _).trans
      (show ':' :: ']' :: _ <:+ l from heq ▸ List.drop_suffix _ l)
  · nomatch h

theorem className_suffix {l after : List Char} {item : ClassNode}
    (h : className l = some (item, after)) : ∃ x r, l = x :: r ∧ after <:+ r := by
  unfold className at h
  split at h
  · next r =>
    have hcaret : (caret r).2 <:+ r := by
      unfold caret
      split
      · exact List.suffix_cons _ _
      · exact List.suffix_refl _
    exact ⟨'[', ':' :: r, rfl, ((nameEnd_suffix h).trans hcaret).trans (List.suffix_cons ':' r)⟩
  · nomatch h

theorem namedClass?_takes : Takes 0 namedClass? := by
  intro c o d h
  rw [run_namedClass?] at h
  cases heq : className c.rest with
  | none =>
    rw [heq] at h
    obtain ⟨rfl, rfl⟩ := Prod.mk.inj (Option.some.inj h)
    exact ⟨List.suffix_refl _, fun _ => Nat.le_refl _⟩
  | some p =>
    rw [heq] at h
    obtain ⟨x, r, hr, hsuf⟩ := className_suffix heq
    obtain ⟨rfl, rfl⟩ := Prod.mk.inj (Option.some.inj h)
    have := hsuf.trans (hr ▸ List.suffix_cons x r)
    exact ⟨this, fun _ => this.length_le⟩

theorem length_of_namedClass? {c d : Cursor} {item : ClassNode}
    (h : namedClass?.run c = some (some item, d)) : d.rest.length < c.rest.length := by
  rw [run_namedClass?] at h
  cases heq : className c.rest with
  | none => simp [heq] at h
  | some p =>
    rw [heq] at h
    obtain ⟨x, r, hr, hsuf⟩ := className_suffix heq
    obtain ⟨-, rfl⟩ := Prod.mk.inj (Option.some.inj h)
    have := hsuf.length_le
    simp only [hr, List.length_cons]
    omega

theorem namedClass?_starved {f : Option ClassNode → Reader β} (h : Starved (f none)) :
    Starved (namedClass? >>= f) := by
  intro c hc
  rw [StateT.run_bind, run_namedClass?, hc]
  exact h hc

theorem classBody_closes (fuel : Nat) (pending : Pending) (items : List ClassNode) :
    Closes (classBody fuel pending items) := by
  induction fuel generalizing pending items with
  | zero => exact ⟨.failure, fun _ _ => rfl⟩
  | succ fuel ih =>
    refine ⟨.second (Nat.le_refl 1) skip_takes fun _ => .peek fun x => ?_,
      .second skip_takes fun _ => peek_starved.bind⟩
    split
    · refine .second (Nat.le_refl 1) namedClass?_takes fun o => ?_
      cases o with
      | some item => exact (ih _ _).takes
      | none => exact classStart_stable.takes.first fun _ => (ih _ _).takes.zero.first fun _ =>
          (ih _ _).takes.zero
    · split
      · exact bump_takes.first fun _ => .pure _
      · have hrange : Takes 1 (classRange >>= fun item =>
            classBody fuel pending (items ++ [item])) :=
          classRange_stable.takes.first fun _ => (ih _ _).takes.zero
        have hop (pending : Pending) := (ih pending []).takes
        exact .eat (Nat.le_refl 1) (hop _) <| .eat (Nat.le_refl 1) (hop _) <|
          .eat (Nat.le_refl 1) (hop _) hrange

theorem classBody_exact {N fuel fuel' : Nat} (pending : Pending) (items : List ClassNode)
    (h : N < fuel') : Exact 0 N (classBody fuel pending items) (classBody fuel' pending items) := by
  induction fuel generalizing N fuel' pending items with
  | zero => exact .failure
  | succ fuel ih =>
    obtain _ | fuel' := fuel'
    · omega
    have hc {n : Nat} {p : Pending} {l : List ClassNode} := classBody_closes n p l
    refine .skip_peek (classBody_closes (fuel + 1) pending items) fun x => ?_
    split
    · refine .of_starved (.plain_bind namedClass?_plain namedClass?_takes (fun o => ?_)
        fun c o d _ hcN hrun => ?_) (namedClass?_starved classStart_starved.bind)
      · cases o with
        | some item => exact hc.takes.zero
        | none => exact classStart_stable.takes.zero.first fun _ =>
            hc.takes.zero.first fun _ => hc.takes.zero
      · cases o with
        | some item => exact ih _ _ (by have := length_of_namedClass? hrun; omega)
        | none =>
          refine .of_steady (classStart_stable.steady _) classStart_stable.takes
            (fun _ => ⟨hc.takes.first fun _ => hc.takes.zero, hc.starved.bind⟩)
            (fun _ => hc.starved.bind) fun a M hM => ?_
          have hle := (namedClass?_takes hrun).1.length_le
          exact (ih _ _ (by omega)).bind hc.takes.zero (fun _ => hc.takes.zero)
            (fun _ => hc.starved.calm) fun _ K hK => ih _ _ (by omega)
    · split
      · exact (Token.bump (.pure _)).exact N
      · have hrange : Paired N
            (classRange >>= fun item => classBody fuel pending (items ++ [item]))
            (classRange >>= fun item => classBody fuel' pending (items ++ [item])) :=
          ⟨⟨classRange_stable.takes.first fun _ => hc.takes.zero, classRange_starved.bind⟩,
            .of_steady (classRange_stable.steady N) classRange_stable.takes (fun _ => hc)
              (fun _ => hc.starved) fun _ M hM => ih _ _ (by omega)⟩
        have hop (text : String) (kind : ClassOp) {b b' : Reader ClassNode}
            (hs : ')' ∉ text.toList ∧ '#' ∉ text.toList) (hpos : 0 < text.length)
            (hb : Paired N b b') :
            Paired N
              (eat text >>= fun found => if found = true then
                classBody fuel (some (kind, pending.close items)) [] else b)
              (eat text >>= fun found => if found = true then
                classBody fuel' (some (kind, pending.close items)) [] else b') :=
          hb.eat hs hpos hc.takes fun M hM => ih _ _ (by omega)
        have hops := hop "&&" .inter (by decide) (by decide) <|
          hop "--" .diff (by decide) (by decide) <|
            hop "~~" .symmDiff (by decide) (by decide) hrange
        exact hops.exact.of_starved <| .eat (by decide) <| .eat (by decide) <|
          .eat (by decide) classRange_starved.bind

theorem bracketed_whole : Whole bracketed :=
  classStart_stable.whole classStart_starved fun p => .loop (L := fun n => classBody n none p.2)
    (fun _ => classBody_closes _ _ _) (classBody_exact _ _) fun _ => .pure _

/-! ## Repetitions -/

theorem finish_still (n : Option Nat) : Still (number.finish n) := by
  cases n with
  | none => exact .failure
  | some n => exact (Still.require _).bind fun _ => .pure _

theorem number_takes (fuel : Nat) (n : Option Nat) : Takes 0 (number fuel n) := by
  induction fuel generalizing n with
  | zero => exact .failure
  | succ fuel ih =>
    refine .peek? fun o => ?_
    cases o with
    | none => exact (finish_still n).takes
    | some x =>
      dsimp only
      split
      · exact bumpSkip_takes.zero.first fun _ => ih _
      · exact (finish_still n).takes

theorem number_steady {N fuel fuel' : Nat} (n : Option Nat) (h : N < fuel') :
    Steady N (number fuel n) (number fuel' n) := by
  induction fuel generalizing N fuel' n with
  | zero => exact .failure
  | succ fuel ih =>
    obtain _ | fuel' := fuel'
    · omega
    refine .peek? (number_takes (fuel + 1) n) fun x => ?_
    dsimp only
    split
    · exact (bumpSkip_exact N).steady.bind bumpSkip_takes (fun _ => number_takes _ _)
        fun _ M _ => ih _ (by omega)
    · exact (finish_still n).stable.steady N

theorem paddedNumber_stable : Stable 0 paddedNumber :=
  anyBlanks_still.stable.bind fun _ => .loop (L := fun n => number n none)
    (fun _ => number_takes _ _) (number_steady none) fun _ =>
      anyBlanks_still.stable.bind fun _ => skip_still.stable.bind fun _ => .pure _

theorem paddedNumber_starved : Starved paddedNumber := by
  refine .second anyBlanks_takes fun _ => .get fun c => .bind fun d hd => ?_
  rw [number, run_peek?_bind, hd]
  rfl

/-- A repetition from its closing brace on. -/
theorem counted_end (min : Nat) (bounds : Nat × Option Nat) : Whole (do
    require ((← peek?) = some '\x7d')
    bumpSkip
    if (← peek?) = some '?' then bump
    require (bounds.2.all (min ≤ ·))
    return bounds : Reader (Nat × Option Nat)) := by
  have hend : Still (do require (bounds.2.all (min ≤ ·)); return bounds :
      Reader (Nat × Option Nat)) := (Still.require _).bind fun _ => .pure _
  refine .require (bumpSkip_token.bind fun _ => .peek? hend rfl rfl (fun x => ?_) fun x N => ?_)
  · dsimp only
    split
    · exact bump_takes.zero.first fun _ => hend.takes
    · exact hend.takes
  · dsimp only
    split
    · exact (bump_token.bind fun _ => hend).exact N
    · exact .require (.pure _)

theorem counted_whole : Whole counted := by
  refine .bumpSkipMore fun _ => paddedNumber_stable.whole paddedNumber_starved fun min =>
    .peek fun x => ?_
  dsimp only
  split
  · refine (Whole.bumpSkipMore fun _ => .peek fun y => ?_).token
    split
    · exact (counted_end min _).token
    · exact (paddedNumber_stable.whole paddedNumber_starved fun max => counted_end min _).token
  · exact (counted_end min _).token

theorem lazyMark_token : Token lazyMark := by
  refine .bump (.peek? (.pure ()) rfl rfl (fun x => ?_) fun x N => ?_)
  all_goals split
  · exact bump_takes.zero
  · exact .pure _
  · exact bump_token.exact N
  · exact .pure _

theorem repeatLast_still (items : List Node) (min : Nat) (max : Option Nat) :
    Still (repeatLast items min max) := by
  unfold repeatLast
  split
  · exact .failure
  · exact .failure
  · exact .failure
  · exact .pure _

/-! ## Groups -/

theorem flagChange_takes (fuel : Nat) (on? : Option FlagChange) (change : FlagChange) :
    Takes 0 (flagChange fuel on? change) := by
  induction fuel generalizing on? change with
  | zero => exact .failure
  | succ fuel ih =>
    refine .peek fun x => ?_
    split
    · exact .require (.pure _)
    · split
      · exact .require (bump_takes.zero.first fun _ => ih _ _)
      · split
        · exact .require (bump_takes.zero.first fun _ => ih _ _)
        · exact .failure

theorem flagChange_steady {N fuel fuel' : Nat} (on? : Option FlagChange) (change : FlagChange)
    (h : N < fuel') : Steady N (flagChange fuel on? change) (flagChange fuel' on? change) := by
  induction fuel generalizing N fuel' on? change with
  | zero => exact .failure
  | succ fuel ih =>
    obtain _ | fuel' := fuel'
    · omega
    have hmore (on? : Option FlagChange) (change : FlagChange) :
        Steady N (bump >>= fun _ => flagChange fuel on? change)
          (bump >>= fun _ => flagChange fuel' on? change) :=
      (bump_token.stable.steady N).bind bump_takes (fun _ => flagChange_takes _ _ _)
        fun _ M _ => ih _ _ (by omega)
    refine .peek (flagChange_takes (fuel + 1) on? change) fun x => ?_
    split
    · exact .require (.pure _)
    · split
      · exact .require (hmore _ _)
      · split
        · exact .require (hmore _ _)
        · exact .failure

theorem groupName_closes (fuel : Nat) (taken : List Char) : Closes (groupName fuel taken) := by
  induction fuel generalizing taken with
  | zero => exact ⟨.failure, fun _ _ => rfl⟩
  | succ fuel ih =>
    refine .peek fun x => ?_
    split
    · exact bump_takes.first fun _ => .pure _
    · exact .require (bump_takes.first fun _ => (ih _).takes.zero)

theorem groupName_exact {N fuel fuel' : Nat} (taken : List Char) (h : N < fuel') :
    Exact 0 N (groupName fuel taken) (groupName fuel' taken) := by
  induction fuel generalizing N fuel' taken with
  | zero => exact .failure
  | succ fuel ih =>
    obtain _ | fuel' := fuel'
    · omega
    refine .peek (groupName_closes (fuel + 1) taken).takes fun x => ?_
    split
    · exact (Token.bump (.pure _)).exact N
    · refine .require ((bump_token.exact N).bind bump_takes
        (fun _ => (groupName_closes _ _).takes.zero) (fun _ => (groupName_closes _ _).starved.calm)
        fun _ M _ => ih _ (by omega))

theorem newName_whole : Whole newName := by
  have hnames (name : List Char) : Still (modify fun s : Cursor =>
      { s with names := name :: s.names } : Reader Unit) := by
    refine Plain.still (fun c t _ _ => rfl) (fun c a d h => ?_) fun c a d _ h => ?_
    all_goals obtain rfl := congrArg Prod.snd (Option.some.inj h)
    · exact ⟨List.suffix_refl _, fun _ => Nat.le_refl _⟩
    · rfl
  refine .loop (L := fun n => groupName n []) (fun _ => groupName_closes _ _) (groupName_exact [])
    fun name => ⟨.get fun c => ?_, ?_, fun N => .get fun M c c' _ _ _ hn _ => ?_⟩
  · exact .require (hnames name).takes
  · intro c a d hc h
    exact ((Still.require _).bind fun _ => hnames name).calm hc h
  · rw [hn]
    exact .require ((hnames name).exact M)

theorem noLookAround_still : Still noLookAround := by
  have hloop {texts : List String} {f : String → PUnit → Reader (ForInStep PUnit)}
      (h : ∀ text ∈ texts, Still (f text ⟨⟩)) : Still (forIn texts ⟨⟩ f) := by
    induction texts with
    | nil => exact .pure _
    | cons text texts ih =>
      rw [List.forIn_cons]
      refine (h text List.mem_cons_self).bind fun r => ?_
      cases r with
      | done u => exact .pure u
      | yield u => exact ih fun text ht => h text (List.mem_cons_of_mem _ ht)
  have htexts : ∀ text ∈ ["?=", "?!", "?<=", "?<!"], ')' ∉ text.toList ∧ '#' ∉ text.toList := by
    decide
  refine (hloop fun text ht => (eat_still (htexts text ht)).bind fun found => ?_).bind fun _ =>
    .pure ()
  split
  · exact .bind .failure fun _ => .pure _
  · exact .pure _

theorem flagsAhead_stable : Stable 0 flagsAhead where
  takes := .get fun _ => flagChange_takes _ _ _
  steady N := .get fun M c c' _ _ hM _ _ => flagChange_steady none [] (by omega)

theorem flagStart_takes : Takes 1 flagStart :=
  .second (Nat.le_refl 1) flagsAhead_stable.takes fun _ => .peek fun x =>
    bump_takes.first fun _ => by
      split
      · exact .require (.pure _)
      · exact .pure _

theorem groupStart_takes : Takes 1 groupStart := by
  have hname : Takes 0 (newName >>= fun _ => pure (.group []) : Reader GroupStart) :=
    newName_whole.takes.zero.first fun _ => .pure _
  simp only [groupStart, groupKind, pure_bind, if_true]
  exact bumpSkip_takes.first fun _ => noLookAround_still.takes.first fun _ =>
    .eat (Nat.zero_le 1) hname <| .eat (Nat.zero_le 1) hname <|
      .eat (Nat.zero_le 1) flagStart_takes.zero (.pure _)

section

variable {k k' : GroupStart → Reader β}

theorem flagStart_bind (ht : ∀ start, Takes 0 (k start))
    (h : ∀ start M, M ≤ N → Exact 0 M (k start) (k' start)) :
    Exact 0 N (flagStart >>= k) (flagStart >>= k') := by
  simp only [flagStart, bind_assoc, ite_bind, pure_bind]
  have hend (change : FlagChange) (x : Char) : Takes 0 (if x = ')' then
      require (!change.isEmpty) >>= fun _ => k (.flags change) else k (.group change)) := by
    split
    · exact .require (ht _)
    · exact ht _
  refine .of_steady (flagsAhead_stable.steady N) flagsAhead_stable.takes
    (fun change => .peek fun x => bump_takes.first fun _ => hend change x)
    (fun _ => peek_starved.bind) fun change K hK =>
      .peek (.peek fun x => bump_takes.first fun _ => hend change x) fun x => ?_
  refine .plain_bind bump_plain bump_takes (fun _ => hend change x) fun c _ d _ hcK hrun => ?_
  have hle := (bump_takes hrun).1.length_le
  split
  · exact .require (h _ _ (by omega))
  · exact h _ _ (by omega)

section

variable (hf : ∀ change, Takes 0 (k (.flags change))) (hg : ∀ change, Closes (k (.group change)))

include hf hg

theorem takes_of_start (start : GroupStart) : Takes 0 (k start) := by
  cases start with
  | flags change => exact hf change
  | group change => exact (hg change).takes.zero

theorem groupKind_closes : Closes (groupKind >>= k) := by
  have hname : Takes 1 (newName >>= fun _ => k (.group [])) :=
    newName_whole.takes.first fun _ => (hg []).takes.zero
  simp only [groupKind, bind_assoc, ite_bind, pure_bind, if_true]
  exact .eat (by decide) hname <| .eat (by decide) hname <|
    .eat (by decide) (flagStart_takes.first (takes_of_start hf hg)) (hg [])

theorem groupKind_exact (h : ∀ start M, M ≤ N → Exact 0 M (k start) (k' start)) :
    Exact 0 N (groupKind >>= k) (groupKind >>= k') := by
  have hname : Takes 1 (newName >>= fun _ => k (.group [])) :=
    newName_whole.takes.first fun _ => (hg []).takes.zero
  have hmore (M : Nat) (hM : M < N) : Exact 0 M (newName >>= fun _ => k (.group []))
      (newName >>= fun _ => k' (.group [])) :=
    (newName_whole.exact M).bind newName_whole.takes.zero (fun _ => (hg []).takes.zero)
      (fun _ => (hg []).starved.calm) fun _ K hK => h _ _ (by omega)
  have hplain : Paired N (k (.group [])) (k' (.group [])) := ⟨hg [], h _ _ (Nat.le_refl N)⟩
  have ht := takes_of_start hf hg
  simp only [groupKind, bind_assoc, ite_bind, pure_bind, if_true]
  refine Paired.exact <| .eat (by decide) (by decide) hname hmore <|
    .eat (by decide) (by decide) hname hmore <|
      .eat (by decide) (by decide) (flagStart_takes.first ht) (fun M hM => ?_) hplain
  exact flagStart_bind ht fun start K hK => h start K (by omega)

/-- The start of a group, and what is read there. Behind flags that stand alone something was taken,
so that what follows may change whether blanks are skipped. -/
theorem groupStart_bind (h : ∀ start M, M < N → Exact 0 M (k start) (k' start)) :
    Exact 1 N (groupStart >>= k) (groupStart >>= k') := by
  have hkind := groupKind_closes hf hg
  have hlook := (bumpSkip_exact N).still bumpSkip_takes fun _ => noLookAround_still
  have := hlook.bind (bumpSkip_takes.first fun _ => noLookAround_still.takes)
    (fun _ => hkind.takes.zero) (fun _ => hkind.starved.calm) fun _ M hM =>
      groupKind_exact hf hg fun start K hK => h start K (by omega)
  simpa only [groupStart, bind_assoc] using this

end

end

end BuildQueue.Pattern
