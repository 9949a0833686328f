import BuildQueue.Config.Policy
import BuildQueue.Proofs.Pattern.Body
import BuildQueue.Proofs.Pattern.Spans

/-!
# Patterns between anchors

A branch pattern is put between `^(?:` and `)$` before it is read. This module says when that is the
same as reading the pattern and asking for a match from end to end. There are two ways out of the
anchors: a pattern that closes a parenthesis which it does not open closes the group around it
(`Unopened`), and a comment at the end of a pattern takes the closing anchor with it
(`EndsInComment`). Any other pattern is read as it is on its own (`Node.reads_anchored`); the
anchors only take their share of the limits.
-/

namespace BuildQueue.Pattern

open Reader

/-! ## Reading a pattern on its own -/

/-- Where reading starts. -/
def Cursor.start (pattern : List Char) : Cursor := ⟨pattern, false, []⟩

theorem Cursor.start_append (p t : List Char) : start (p ++ t) = (start p).before t := rfl

namespace Node

/-- The alternatives at the start of a pattern, and what is left behind them. -/
def read? (pattern : List Char) : Option (Node × Cursor) :=
  (body (2 * pattern.length + 2) [] []).run (.start pattern)

/-- The whole of a pattern is read, up to a cursor with nothing left. -/
def Reads (node : Node) (pattern : List Char) (d : Cursor) : Prop :=
  read? pattern = some (node, d) ∧ d.rest = []

end Node

/-- A pattern that closes a parenthesis which it does not open. -/
def Unopened (pattern : List Char) : Prop := ∃ r ∈ Node.read? pattern, r.2.rest ≠ []

/-- A pattern whose last line ends in a comment: what stands before the number sign is a pattern
after which blanks and comments are skipped. -/
def EndsInComment (pattern : List Char) : Prop :=
  ∃ p q node d, pattern = p ++ '#' :: q ∧ '\n' ∉ q ∧ Node.Reads node p d ∧ d.verbose = true

/-- Reads a pattern as an expression within limits on its nesting and its weight. -/
def Regex.parseWithin? (depth weight : Nat) (pattern : List Char) : Option Regex := do
  let (node, cursor) ← Node.read? pattern
  let (r, _) ← node.meaning {}
  if cursor.rest.isEmpty ∧ node.depth ≤ depth ∧ r.weight ≤ weight then some r else none

namespace Regex

theorem parseWithin?_eq_some {depth weight : Nat} {pattern : List Char} {r : Regex} :
    parseWithin? depth weight pattern = some r ↔
      ∃ (node : Node) (d : Cursor) (f : Flags), node.Reads pattern d ∧ node.depth ≤ depth ∧
        node.meaning {} = some (r, f) ∧ r.weight ≤ weight := by
  simp only [parseWithin?, Node.Reads, Option.bind_eq_bind, Option.bind_eq_some_iff,
    List.isEmpty_iff, Option.ite_none_right_eq_some, Option.some.injEq, Prod.exists]
  constructor
  · rintro ⟨node, d, hread, r, f, hmeaning, ⟨hd, hdepth, hweight⟩, rfl⟩
    exact ⟨node, d, f, ⟨hread, hd⟩, hdepth, hmeaning, hweight⟩
  · rintro ⟨node, d, f, ⟨hread, hd⟩, hdepth, hmeaning, hweight⟩
    exact ⟨node, d, hread, r, f, hmeaning, ⟨hd, hdepth, hweight⟩, rfl⟩

/-- Reading is reading within the limits of the language. -/
theorem parse?_eq (pattern : List Char) :
    parse? pattern = parseWithin? maxDepth maxWeight pattern := by
  refine Option.ext fun r => ?_
  simp only [parseWithin?_eq_some, parse?, Node.parse?, Node.Reads, Node.read?, Cursor.start,
    Option.bind_eq_bind, Option.bind_eq_some_iff, List.isEmpty_iff, Option.ite_none_right_eq_some,
    Option.some.injEq, Prod.exists]
  constructor
  · rintro ⟨_, ⟨node, d, hread, ⟨hd, hdepth⟩, rfl⟩, r, f, hmeaning, hweight, rfl⟩
    exact ⟨node, d, f, ⟨hread, hd⟩, hdepth, hmeaning, hweight⟩
  · rintro ⟨node, d, f, ⟨hread, hd⟩, hdepth, hmeaning, hweight⟩
    exact ⟨node, ⟨node, d, hread, ⟨hd, hdepth⟩, rfl⟩, r, f, hmeaning, hweight, rfl⟩

/-- What is read within limits is read within greater ones. -/
theorem parseWithin?_mono {depth weight depth' weight' : Nat} {pattern : List Char} {r : Regex}
    (h : parseWithin? depth weight pattern = some r) (hd : depth ≤ depth') (hw : weight ≤ weight') :
    parseWithin? depth' weight' pattern = some r := by
  obtain ⟨node, d, f, hread, hdepth, hmeaning, hweight⟩ := parseWithin?_eq_some.mp h
  exact parseWithin?_eq_some.mpr ⟨node, d, f, hread, Nat.le_trans hdepth hd, hmeaning,
    Nat.le_trans hweight hw⟩

end Regex

/-- On its own, a pattern that closes too much cannot be read. -/
theorem Unopened.parse?_eq_none {pattern : List Char} (h : Unopened pattern) :
    Regex.parse? pattern = none := by
  obtain ⟨⟨node, d⟩, hread, hd⟩ := h
  rw [Regex.parse?_eq, Option.eq_none_iff_forall_ne_some]
  intro r hr
  obtain ⟨node', d', _, ⟨hread', hd'⟩, -⟩ := Regex.parseWithin?_eq_some.mp hr
  obtain ⟨-, rfl⟩ := Prod.mk.inj (Option.some.inj (hread.symm.trans hread'))
  exact hd hd'

/-! ## Reading a pattern in front of a text -/

namespace Node

section

variable {pattern t : List Char} {fuel : Nat} {node : Node} {d : Cursor}

/-- What is read in front of a text is read without it. -/
theorem read?_of_before (ht : Tail t)
    (h : (body fuel [] []).run ((Cursor.start pattern).before t) = some (node, d.before t)) :
    read? pattern = some (node, d) :=
  (body_exact [] [] (by omega)).retract' (Nat.zero_le _) (Nat.le_refl pattern.length) ht h

/-- What is read with some fuel is read with that of `read?`. -/
theorem read?_of_run (h : (body fuel [] []).run (.start pattern) = some (node, d)) :
    read? pattern = some (node, d) :=
  read?_of_before .nil (by simpa using h)

/-- A pattern is read in front of a text as it is on its own, unless it ends in a comment. -/
theorem Reads.before (h : node.Reads pattern d) (hf : pattern.length < fuel)
    (ht : Tail t) (hhead : t.head? ≠ some '#') (hc : ¬ EndsInComment pattern) :
    (body fuel [] []).run ((Cursor.start pattern).before t) = some (node, d.before t) := by
  refine ((body_exact [] [] hf).extend (Nat.zero_le _) (Nat.le_refl pattern.length) ht
    (absurd · hhead) h.2 h.1).resolve_right fun hsw => ?_
  obtain hh | ⟨p, q, hpq, -, hq, hp⟩ := hsw.comment
  · exact hhead hh
  · exact hc ⟨p, q, node, d, hpq, hq, ⟨read?_of_run hp, h.2⟩, hsw.verbose⟩

/-- In front of a text a comment at the end of a pattern goes on, and so the reader stops neither
before that text nor in it. -/
theorem not_before_of_endsInComment (hc : EndsInComment pattern) (hf : pattern.length < fuel)
    (ht : '\n' ∉ t) (hhead : t.head? ≠ some '#') (ht0 : t ≠ []) (hd : d.rest = []) :
    (body fuel [] []).run ((Cursor.start pattern).before t) ≠ some (node, d.before t) := by
  obtain ⟨p, q, node', d', rfl, hq, ⟨hread, hd'⟩, hverbose⟩ := hc
  have hcomment : Tail ('#' :: (q ++ t)) := .comment (by simp [hq, ht])
  have hlen : p.length < fuel := by simp only [List.length_append] at hf; omega
  have hsame : (Cursor.start (p ++ '#' :: q)).before t =
      (Cursor.start p).before ('#' :: (q ++ t)) := by
    simp [Cursor.before, Cursor.start]
  intro hrun
  rw [hsame] at hrun
  have hstop : d'.before ('#' :: (q ++ t)) = d.before t ∨ d' = d.before t := by
    rcases (body_exact [] [] hlen).extend (Nat.zero_le _) (Nat.le_refl p.length) hcomment
      (fun _ => hverbose) hd' hread with hr | hsw
    · exact .inl (Prod.mk.inj (Option.some.inj (hr.symm.trans hrun))).2
    · exact .inr (Prod.mk.inj (Option.some.inj (hsw.run.symm.trans hrun))).2
  rcases hstop with h | h
  · have := congrArg (·.rest.head?) h
    simp only [Cursor.rest_before, hd, hd', List.nil_append, List.head?_cons] at this
    exact hhead this.symm
  · have := congrArg Cursor.rest h
    simp only [Cursor.rest_before, hd, hd', List.nil_append] at this
    exact ht0 this.symm

end

/-! ## The anchors -/

/-- What stands behind a pattern between anchors. -/
theorem tail_closing : Tail [')', '$'] := ⟨by decide, fun _ hx => .inl (Option.some.inj hx).symm⟩

/-- The tree of a pattern between anchors. -/
def anchored (a : Node) : Node := concat [anchor .lineStart, group [] a, anchor .lineEnd]

theorem depth_anchored (a : Node) : a.anchored.depth = a.depth + 2 := by
  simp [anchored, depth, depth.depths]

theorem meaning_anchored (a : Node) :
    a.anchored.meaning {} = (a.meaning {}).map fun p => (p.1.anchored, {}) := by
  cases h : a.meaning {} with
  | none => simp [anchored, meaning, meaning.sequence, Flags.apply, h]
  | some p =>
    simp [anchored, meaning, meaning.sequence, Flags.apply, h, Regex.anchored, Anchor.look]

end Node

/-- The anchor and the parenthesis in front of a text are read alike for all texts. -/
theorem body_anchored (fuel : Nat) (text : List Char) :
    (body (fuel + 2) [] []).run (.start ('^' :: '(' :: '?' :: ':' :: text)) =
      (body fuel [] [] >>= fun inside => closeGroup false >>= fun _ =>
        body fuel [] [.anchor .lineStart, .group [] inside]).run (.start text) := rfl

/-- The parenthesis and the anchor behind a pattern. -/
theorem closeGroup_anchored {fuel : Nat} (hf : 2 ≤ fuel) (inside : Node) {d : Cursor}
    (hd : d.rest = []) :
    (closeGroup false >>= fun _ => body fuel [] [.anchor .lineStart, .group [] inside]).run
      (d.before [')', '$']) = some (inside.anchored, ⟨[], false, d.names⟩) := by
  obtain ⟨fuel, rfl⟩ := Nat.exists_eq_add_of_le' hf
  obtain ⟨_, verbose, names⟩ := d
  cases hd
  rfl

theorem closeGroup_head {verbose : Bool} {e : Cursor} {r : Unit × Cursor}
    (h : (closeGroup verbose).run e = some r) : e.rest.head? = some ')' := by
  rw [closeGroup, run_peek?_bind] at h
  by_cases hp : e.rest.head? = some ')'
  · exact hp
  · rw [decide_eq_false hp] at h
    exact nomatch h

/-- A reader that stops at a parenthesis stops within the pattern or right behind it. -/
theorem Cursor.eq_before {e : Cursor} {pattern : List Char} (h : e.rest <:+ pattern ++ [')', '$'])
    (hhead : e.rest.head? = some ')') : ∃ d : Cursor, e = d.before [')', '$'] := by
  have htail : [')', '$'] <:+ e.rest := by
    refine (List.suffix_or_suffix_of_suffix (List.suffix_append pattern _) h).elim id fun hs => ?_
    rcases List.suffix_cons_iff.mp hs with hs | hs
    · exact hs ▸ List.suffix_refl _
    · rcases List.suffix_cons_iff.mp hs with hs | hs
      · simp [hs] at hhead
      · simp [List.suffix_nil.mp hs] at hhead
  obtain ⟨d, rfl, -⟩ := Cursor.split (d := ⟨[], false, []⟩) htail
  exact ⟨d, rfl⟩

/-- A pattern that leaves no parenthesis to close is read between anchors as it is on its own, but
not if it ends in a comment. -/
theorem Node.reads_anchored {pattern : List Char} (h : ¬ Unopened pattern) {node : Node} :
    (∃ c, node.Reads ('^' :: '(' :: '?' :: ':' :: (pattern ++ [')', '$'])) c) ↔
      ¬ EndsInComment pattern ∧
        ∃ (inside : Node) (d : Cursor), inside.Reads pattern d ∧ node = inside.anchored := by
  obtain ⟨fuel, hfuel⟩ : ∃ fuel, fuel =
    2 * ('^' :: '(' :: '?' :: ':' :: (pattern ++ [')', '$'])).length := ⟨_, rfl⟩
  obtain ⟨hlen, hf⟩ : pattern.length < fuel ∧ 2 ≤ fuel := by
    simp only [List.length_cons, List.length_append] at hfuel
    omega
  simp only [Node.Reads, Node.read?, ← hfuel, body_anchored, Cursor.start_append]
  constructor
  · rintro ⟨c, hrun, -⟩
    obtain ⟨inside, e, hinside, hclose⟩ := Reader.bind_eq_some.mp hrun
    obtain ⟨_, _, hparen, -⟩ := Reader.bind_eq_some.mp hclose
    obtain ⟨d, rfl⟩ := Cursor.eq_before (body_takes _ _ _ hinside).1 (closeGroup_head hparen)
    have hinner := Node.read?_of_before Node.tail_closing hinside
    have hd : d.rest = [] := Classical.byContradiction fun hd => h ⟨_, hinner, hd⟩
    rw [closeGroup_anchored hf inside hd] at hclose
    refine ⟨fun hc => ?_, inside, d, ⟨hinner, hd⟩, ?_⟩
    · exact Node.not_before_of_endsInComment hc hlen (by decide) (by decide) (by decide) hd hinside
    · exact (Prod.mk.inj (Option.some.inj hclose)).1.symm
  · rintro ⟨hc, inside, d, hread, rfl⟩
    have hinside := Node.Reads.before hread hlen Node.tail_closing (by decide) hc
    exact ⟨⟨[], false, d.names⟩,
      Reader.bind_eq_some.mpr ⟨inside, _, hinside, closeGroup_anchored hf inside hread.2⟩, rfl⟩

/-- Between anchors a pattern is read as the expression that it is on its own, with two levels of
nesting and the weight of the anchors less. -/
theorem Regex.parse?_anchored {pattern : List Char} (h : ¬ Unopened pattern) {r : Regex} :
    Regex.parse? ('^' :: '(' :: '?' :: ':' :: (pattern ++ [')', '$'])) = some r ↔
      ¬ EndsInComment pattern ∧
        ∃ s, parseWithin? (maxDepth - 2) (maxWeight - 96) pattern = some s ∧ r = s.anchored := by
  rw [Regex.parse?_eq]
  simp only [parseWithin?_eq_some]
  constructor
  · rintro ⟨node, c, f, hread, hdepth, hmeaning, hweight⟩
    obtain ⟨hc, inside, d, hinside, rfl⟩ := (Node.reads_anchored h).mp ⟨c, hread⟩
    rw [Node.meaning_anchored, Option.map_eq_some_iff] at hmeaning
    obtain ⟨⟨s, g⟩, hs, heq⟩ := hmeaning
    obtain ⟨rfl, -⟩ := Prod.mk.inj heq
    rw [Node.depth_anchored] at hdepth
    rw [Regex.weight_anchored] at hweight
    exact ⟨hc, s, ⟨inside, d, g, hinside, Nat.le_sub_of_add_le hdepth, hs,
      Nat.le_sub_of_add_le hweight⟩, rfl⟩
  · rintro ⟨hc, s, ⟨inside, d, g, hinside, hdepth, hs, hweight⟩, rfl⟩
    obtain ⟨c, hread⟩ := (Node.reads_anchored h).mpr ⟨hc, inside, d, hinside, rfl⟩
    refine ⟨inside.anchored, c, {}, hread, ?_, ?_, ?_⟩
    · rw [Node.depth_anchored]
      exact Nat.add_le_of_le_sub (by decide) hdepth
    · rw [Node.meaning_anchored, hs]
      rfl
    · rw [Regex.weight_anchored]
      exact Nat.add_le_of_le_sub (by decide) hweight

end BuildQueue.Pattern

namespace BuildQueue

open Pattern

/-- On its own, a pattern is an expression that spans the whole of a branch. -/
def MatchesWhole (source branch : String) : Prop :=
  let text := branch.toList.toArray
  ∃ r, Regex.parse? source.toList = some r ∧ r.Spans wordChars text 0 text.size

namespace BranchPattern

theorem anchored_eq (source : String) :
    anchored source = '^' :: '(' :: '?' :: ':' :: (source.toList ++ [')', '$']) := rfl

theorem isSome_parse? (source : String) :
    (parse? source).isSome = (Regex.parse? (anchored source)).isSome := by
  unfold parse?
  split <;> simp [*]

theorem source_of_parse? {source : String} {p : BranchPattern} (h : parse? source = some p) :
    p.source = source := by
  unfold parse? at h
  split at h
  · exact (Option.some.inj h) ▸ rfl
  · exact nomatch h

/-- A pattern is accepted if it is one on its own within what the anchors leave of the limits, and
does not end in a comment. -/
theorem isSome_parse?_iff {source : String} (h : ¬ Unopened source.toList) :
    (parse? source).isSome = true ↔ ¬ EndsInComment source.toList ∧
      (Regex.parseWithin? (maxDepth - 2) (maxWeight - 96) source.toList).isSome = true := by
  simp only [isSome_parse?, anchored_eq, Option.isSome_iff_exists, Regex.parse?_anchored h]
  constructor
  · rintro ⟨_, hc, r, hr, -⟩
    exact ⟨hc, r, hr⟩
  · rintro ⟨hc, r, hr⟩
    exact ⟨_, hc, r, hr, rfl⟩

/-- A pattern that leaves no parenthesis to close selects the branches that it matches whole. -/
theorem selects_iff (p : BranchPattern) (h : ¬ Unopened p.source.toList) (branch : String) :
    p.selects branch = true ↔ MatchesWhole p.source branch := by
  have hp := p.regex_eq
  rw [anchored_eq, Regex.parse?_anchored h] at hp
  obtain ⟨-, r, hr, hanchored⟩ := hp
  have hown : Regex.parse? p.source.toList = some r := by
    rw [Regex.parse?_eq]
    exact Regex.parseWithin?_mono hr (Nat.sub_le _ _) (Nat.sub_le _ _)
  rw [selects, hanchored, Regex.matchesWithin_anchored]
  constructor
  · exact fun hspan => ⟨r, hown, hspan⟩
  · rintro ⟨s, hs, hspan⟩
    exact Option.some.inj (hown.symm.trans hs) ▸ hspan

end BranchPattern

namespace RepositoryPolicy

variable (policy : RepositoryPolicy) (branch : String)

theorem any_selects_iff {patterns : List BranchPattern}
    (h : ∀ p ∈ patterns, ¬ Unopened p.source.toList) :
    patterns.any (·.selects branch) = true ↔ ∃ p ∈ patterns, MatchesWhole p.source branch := by
  rw [List.any_eq_true]
  exact exists_congr fun p => and_congr_right fun hp => p.selects_iff (h p hp) branch

theorem builds_iff (h : ∀ p ∈ policy.buildBranches, ¬ Unopened p.source.toList) :
    policy.builds branch = true ↔ ∃ p ∈ policy.buildBranches, MatchesWhole p.source branch :=
  any_selects_iff branch h

theorem releaseFor_iff (h : ∀ p ∈ policy.releaseBranches, ¬ Unopened p.source.toList)
    (bump : Bump) :
    policy.releaseFor branch = some bump ↔
      policy.release = some bump ∧ ∃ p ∈ policy.releaseBranches, MatchesWhole p.source branch := by
  rw [releaseFor, Option.ite_none_right_eq_some, any_selects_iff branch h, and_comm]

end RepositoryPolicy

namespace BranchPattern

/-- Whole branch names. A pattern that closes no parenthesis of its surroundings is accepted just
when it is one on its own, if the limits leave room for the anchors and no comment at its end takes
the closing one. It then selects the branches that it matches from end to end, and so do the
policies that it is part of. -/
theorem whole_names (source branch : String) (policy : RepositoryPolicy) :
    (Unopened source.toList → Regex.parse? source.toList = none) ∧
    (¬ Unopened source.toList →
      ((parse? source).isSome = true ↔ ¬ EndsInComment source.toList ∧
        (Regex.parseWithin? (maxDepth - 2) (maxWeight - 96) source.toList).isSome = true) ∧
      ∀ p, parse? source = some p → (p.selects branch = true ↔ MatchesWhole source branch)) ∧
    ((∀ p ∈ policy.buildBranches, ¬ Unopened p.source.toList) →
      (policy.builds branch = true ↔
        ∃ p ∈ policy.buildBranches, MatchesWhole p.source branch)) ∧
    ((∀ p ∈ policy.releaseBranches, ¬ Unopened p.source.toList) → ∀ bump,
      (policy.releaseFor branch = some bump ↔ policy.release = some bump ∧
        ∃ p ∈ policy.releaseBranches, MatchesWhole p.source branch)) := by
  refine ⟨Unopened.parse?_eq_none, fun h => ⟨isSome_parse?_iff h, fun p hp => ?_⟩,
    policy.builds_iff branch, policy.releaseFor_iff branch⟩
  obtain rfl := source_of_parse? hp
  exact p.selects_iff h branch

instance (pattern : List Char) : Decidable (Unopened pattern) :=
  inferInstanceAs (Decidable (∃ r ∈ Node.read? pattern, r.2.rest ≠ []))

/-- A policy that builds versions and cuts releases from them. -/
def versioned : RepositoryPolicy where
  source := ⟨"g", "w"⟩
  release := some .minor
  releaseBranches := (parse? "release/.*|v[0-9]+").toList
  buildBranches := (parse? "release/.*|v[0-9]+").toList

theorem whole_names_versioned :
    ¬ Unopened "release/.*|v[0-9]+".toList ∧ ¬ EndsInComment "release/.*|v[0-9]+".toList ∧
      MatchesWhole "release/.*|v[0-9]+" "v12" ∧ ¬ MatchesWhole "release/.*|v[0-9]+" "v12-rc" ∧
      (∃ p ∈ versioned.buildBranches, MatchesWhole p.source "release/1") ∧
      ∃ p ∈ versioned.releaseBranches, MatchesWhole p.source "v12" := by
  have hopen : ¬ Unopened "release/.*|v[0-9]+".toList := by decide +kernel
  have hsome : (parse? "release/.*|v[0-9]+").isSome = true := by decide +kernel
  have hselects (branch : String) := (whole_names "release/.*|v[0-9]+" branch versioned).2.1 hopen
  obtain ⟨p, hp⟩ := Option.isSome_iff_exists.mp hsome
  have hcomputed : (parse? "release/.*|v[0-9]+").any
      (fun p => p.selects "v12" && !p.selects "v12-rc") = true := by decide +kernel
  rw [hp, Option.any_some, Bool.and_eq_true, Bool.not_eq_true', ← Bool.not_eq_true] at hcomputed
  refine ⟨hopen, ((hselects "v12").1.mp hsome).1, ((hselects _).2 p hp).mp hcomputed.1,
    fun h => hcomputed.2 (((hselects _).2 p hp).mpr h), ?_, ?_⟩
  · exact ((whole_names "v" "release/1" versioned).2.2.1 (by decide +kernel)).mp
      (by decide +kernel)
  · exact (((whole_names "v" "v12" versioned).2.2.2 (by decide +kernel) .minor).mp
      (by decide +kernel)).2

/-- A text that is no pattern on its own breaks out of the anchors and selects a branch of which it
names only a part; and a pattern that ends in a comment is refused. -/
theorem pasted_text_escapes :
    (∃ p, parse? "main)|(?:dev" = some p ∧ p.selects "mainline" = true ∧
        ¬ MatchesWhole "main)|(?:dev" "mainline" ∧
        (Regex.parse? "main)|(?:dev".toList).isSome = false) ∧
      (Regex.parse? "(?x)main # trunk".toList).isSome = true ∧
      (parse? "(?x)main # trunk").isSome = false := by
  have hnone : Regex.parse? "main)|(?:dev".toList = none :=
    Unopened.parse?_eq_none (by decide +kernel)
  have hsome : (parse? "main)|(?:dev").any (·.selects "mainline") = true := by decide +kernel
  obtain ⟨p, hp, hselects⟩ := (Option.any_eq_true _ _).mp hsome
  refine ⟨⟨p, hp, hselects, ?_, by rw [hnone]; rfl⟩, by decide +kernel, by decide +kernel⟩
  rintro ⟨r, hr, -⟩
  exact nomatch hnone.symm.trans hr

end BranchPattern

end BuildQueue
