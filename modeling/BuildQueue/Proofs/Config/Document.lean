import BuildQueue.Config.Document
import BuildQueue.Proofs.Except
import Mathlib.Data.List.Nodup

/-!
# Accepted configurations

A document is accepted just when each `coordinator` and each `repository` node can be read and no two
`repository` nodes name the same repository; what is then read stands for the document
(`Represents`). One node after the other is taken over (`add_eq_ok`), and whatever is taken over later
leaves what the scheduler relies on in force: names in the store can be taken apart at colons, some
job may be admitted, a status lives for some hours, and each repository has one policy.
-/

namespace BuildQueue

open Kdl (Node Document)

/-- An error of one node, whatever other nodes there are. -/
def ConfigError.Local : ConfigError → Prop
  | .duplicateRepository _ => False
  | _ => True

namespace Kdl

/-- The nodes of a name, in order. -/
def named (name : String) (nodes : List Node) : List Node := nodes.filter (·.name = name)

/-- Whether a node is the one of a repository. -/
def Node.Names (n : Node) (source : Source) : Prop :=
  n.name = "repository" ∧ n.texts = [source.id, source.path]

instance (n : Node) (source : Source) : Decidable (n.Names source) :=
  inferInstanceAs (Decidable (_ ∧ _))

/-- The nodes of a repository, in order. -/
def Document.naming (d : Document) (source : Source) : List Node := d.filter (·.Names source)

/-- The hours that a status should live by a node, each setting of them in order. -/
def Node.hours (n : Node) : List UInt64 :=
  (named "status-ttl-hours" n.children).filterMap fun child => child.positive.toOption

/-- The seconds of all hours that a document asks for fit into 64 bits. -/
def Document.HoursFit (d : Document) : Prop :=
  ∀ n ∈ named "coordinator" d, ∀ hours ∈ n.hours, hours.toNat * 3600 < UInt64.size

instance (d : Document) : Decidable d.HoursFit :=
  @List.decidableBAll Node (fun n => ∀ hours ∈ n.hours, hours.toNat * 3600 < UInt64.size)
    (fun n => List.decidableBAll _ n.hours) (named "coordinator" d)

theorem Node.one_le_positive {n : Node} {x : UInt64} (h : n.positive = .ok x) : 1 ≤ x.toNat := by
  unfold Node.positive at h
  split at h
  · cases h
  · next i _ =>
    split at h
    · next hi =>
      obtain rfl := Except.ok.inj h
      have hsize : i.toNat < 2 ^ 64 := by
        have : UInt64.size = 2 ^ 64 := rfl
        omega
      rw [UInt64.toNat_ofNat', Nat.mod_eq_of_lt hsize]
      omega
    · cases h

/-- The patterns of a node are its texts, compiled. -/
theorem Node.source_of_patterns {n : Node} {ps : List BranchPattern} (h : n.patterns = .ok ps) :
    ps.map (·.source) = n.texts := by
  rw [Node.patterns, Except.mapM_eq_ok] at h
  rw [← List.forall₂_eq_eq_eq, List.forall₂_map_left_iff]
  refine h.flip.imp fun p s hp => ?_
  split at hp
  · next q hq =>
    obtain rfl := Except.ok.inj hp
    unfold BranchPattern.parse? at hq
    split at hq
    · exact congrArg BranchPattern.source (Option.some.inj hq).symm
    · cases hq
  · cases hp

theorem Node.positive_error {n : Node} {e : ConfigError} (h : n.positive = .error e) :
    ∃ fault, e = .invalidValue n.name fault := by
  unfold Node.positive at h
  split at h
  · exact ⟨_, (Except.error.inj h).symm⟩
  · split at h
    · cases h
    · exact ⟨_, (Except.error.inj h).symm⟩

theorem Node.flag_error {n : Node} {e : ConfigError} (h : n.flag = .error e) :
    e = .invalidValue n.name .notBoolean := by
  unfold Node.flag at h
  split at h
  · cases h
  · exact (Except.error.inj h).symm

theorem Node.textFor_error {n : Node} {name : String} {e : ConfigError}
    (h : n.textFor name = .error e) : e = .missingField name := by
  unfold Node.textFor at h
  split at h
  · cases h
  · exact (Except.error.inj h).symm

theorem Node.patterns_error {n : Node} {e : ConfigError} (h : n.patterns = .error e) :
    ∃ s ∈ n.texts, e = .malformedPattern s := by
  obtain ⟨s, hs, h⟩ := Except.mapM_eq_error h
  split at h
  · cases h
  · exact ⟨s, hs, (Except.error.inj h).symm⟩

end Kdl

namespace Coordinator

/-- What the scheduler relies on. -/
structure WellFormed (c : Coordinator) : Prop where
  root_ne : c.keyRoot ≠ ""
  /-- Names in the store are divided by colons. -/
  colon_not_mem : ':' ∉ c.keyRoot.toList
  one_le_concurrency : 1 ≤ c.concurrency.toNat
  /-- A status lives for a positive number of whole hours. -/
  hours : ∃ h, 1 ≤ h ∧ c.statusTtl.seconds.toNat = h * 3600 ∧ c.statusTtl.nanoseconds = 0

theorem wellFormed_default : ({} : Coordinator).WellFormed where
  root_ne := by decide
  colon_not_mem := by decide
  one_le_concurrency := by decide
  hours := ⟨48, by decide, by decide, rfl⟩

theorem wellFormed_set {c c' : Coordinator} {n : Node} (hc : c.WellFormed)
    (hfit : n.name = "status-ttl-hours" → ∀ hours, n.positive = .ok hours →
      hours.toNat * 3600 < UInt64.size)
    (h : c.set n = .ok c') : c'.WellFormed := by
  unfold set at h
  split at h
  · obtain rfl := Except.ok.inj h
    exact { hc with }
  · obtain ⟨root, -, h⟩ := Except.bind_eq_ok.1 h
    split at h
    · next hroot =>
      obtain rfl := Except.ok.inj h
      have hroot : root ≠ "" ∧ ':' ∉ root.toList := by simpa [isKeyRoot] using hroot
      exact { hc with root_ne := hroot.1, colon_not_mem := hroot.2 }
    · cases h
  · obtain ⟨jobs, hjobs, h⟩ := Except.bind_eq_ok.1 h
    obtain rfl := Except.ok.inj h
    exact { hc with one_le_concurrency := Node.one_le_positive hjobs }
  · next hname =>
    obtain ⟨hours, hhours, h⟩ := Except.bind_eq_ok.1 h
    obtain rfl := Except.ok.inj h
    have hlt := hfit hname hours hhours
    refine { hc with hours := ⟨hours.toNat, Node.one_le_positive hhours, ?_, rfl⟩ }
    show (hours * 3600).toNat = hours.toNat * 3600
    rw [UInt64.toNat_mul]
    exact Nat.mod_eq_of_lt hlt
  · exact Except.ok.inj h ▸ hc

theorem wellFormed_ofNode {c : Coordinator} {n : Node}
    (hfit : ∀ hours ∈ n.hours, hours.toNat * 3600 < UInt64.size) (h : ofNode n = .ok c) :
    c.WellFormed := by
  refine Except.foldlM_induction WellFormed
    (fun c c' child hchild hc h => wellFormed_set hc (fun hname hours hhours => ?_) h)
    wellFormed_default h
  refine hfit hours (List.mem_filterMap.2 ⟨child, ?_, by rw [hhours]; rfl⟩)
  exact List.mem_filter.2 ⟨hchild, by simpa using hname⟩

theorem set_error {c : Coordinator} {n : Node} {e : ConfigError} (h : c.set n = .error e) :
    e.Local := by
  unfold set at h
  split at h
  case h_1 | h_5 => cases h
  case h_2 =>
    obtain h | ⟨root, -, h⟩ := Except.bind_eq_error.1 h
    · obtain rfl := Node.textFor_error h
      trivial
    · split at h
      · cases h
      · obtain rfl := Except.error.inj h
        trivial
  case h_3 | h_4 =>
    obtain h | ⟨_, -, h⟩ := Except.bind_eq_error.1 h
    · obtain ⟨_, rfl⟩ := Node.positive_error h
      trivial
    · cases h

theorem ofNode_error {n : Node} {e : ConfigError} (h : ofNode n = .error e) : e.Local := by
  obtain ⟨-, _, -, _, -, -, h⟩ := Except.foldlM_eq_error h
  exact set_error h

end Coordinator

namespace RepositoryPolicy

/-- A policy that stands for a node: the node names its repository, and its patterns are the texts of
the node's children, compiled. -/
structure Represents (p : RepositoryPolicy) (n : Node) : Prop where
  read : ofNode n = .ok p
  texts : n.texts = [p.source.id, p.source.path]
  releaseBranches : p.releaseBranches.map (·.source) =
    (Kdl.named "release-branch" n.children).flatMap Node.texts
  buildBranches : p.buildBranches.map (·.source) =
    (Kdl.named "build-branch" n.children).flatMap Node.texts
  compiled : ∀ b ∈ p.releaseBranches ++ p.buildBranches, BranchPattern.parse? b.source = some b

/-- The policy `p'` is `p` with the settings of some nodes: they add patterns and leave the
repository as it is. -/
structure Extends (p p' : RepositoryPolicy) (nodes : List Node) : Prop where
  source : p'.source = p.source
  releaseBranches : p'.releaseBranches.map (·.source) =
    p.releaseBranches.map (·.source) ++ (Kdl.named "release-branch" nodes).flatMap Node.texts
  buildBranches : p'.buildBranches.map (·.source) =
    p.buildBranches.map (·.source) ++ (Kdl.named "build-branch" nodes).flatMap Node.texts

theorem Extends.of_eq {p p' : RepositoryPolicy} {n : Node} (hsource : p'.source = p.source)
    (hrelease : p'.releaseBranches = p.releaseBranches)
    (hbuild : p'.buildBranches = p.buildBranches) (hr : n.name ≠ "release-branch")
    (hb : n.name ≠ "build-branch") : Extends p p' [n] where
  source := hsource
  releaseBranches := by simp [hrelease, Kdl.named, hr]
  buildBranches := by simp [hbuild, Kdl.named, hb]

theorem extends_set {p p' : RepositoryPolicy} {n : Node} (h : p.set n = .ok p') :
    Extends p p' [n] := by
  unfold set at h
  split at h
  case h_1 hname | h_2 hname | h_3 hname =>
    obtain ⟨flag, -, h⟩ := Except.bind_eq_ok.1 h
    obtain rfl := Except.ok.inj h
    exact .of_eq rfl rfl rfl (by simp [hname]) (by simp [hname])
  case h_4 hname =>
    obtain ⟨text, -, h⟩ := Except.bind_eq_ok.1 h
    split at h
    · obtain rfl := Except.ok.inj h
      exact .of_eq rfl rfl rfl (by simp [hname]) (by simp [hname])
    · cases h
  case h_5 hname =>
    obtain ⟨patterns, hpatterns, h⟩ := Except.bind_eq_ok.1 h
    obtain rfl := Except.ok.inj h
    exact ⟨rfl, by simp [Kdl.named, hname, Node.source_of_patterns hpatterns],
      by simp [Kdl.named, hname]⟩
  case h_6 hname =>
    obtain ⟨patterns, hpatterns, h⟩ := Except.bind_eq_ok.1 h
    obtain rfl := Except.ok.inj h
    exact ⟨rfl, by simp [Kdl.named, hname],
      by simp [Kdl.named, hname, Node.source_of_patterns hpatterns]⟩
  case h_7 hr hb =>
    obtain rfl := Except.ok.inj h
    exact .of_eq rfl rfl rfl hr hb

theorem extends_foldlM {p p' : RepositoryPolicy} {nodes : List Node}
    (h : nodes.foldlM set p = .ok p') : Extends p p' nodes := by
  induction nodes generalizing p with
  | nil =>
    obtain rfl := Except.ok.inj h
    exact ⟨rfl, by simp [Kdl.named], by simp [Kdl.named]⟩
  | cons n nodes ih =>
    rw [List.foldlM_cons, Except.bind_eq_ok] at h
    obtain ⟨q, hq, h⟩ := h
    have hn := extends_set hq
    have hnodes := ih h
    have happend : ∀ name, Kdl.named name (n :: nodes) = Kdl.named name [n] ++ Kdl.named name nodes :=
      fun name => List.filter_append [n] nodes
    refine ⟨hnodes.source.trans hn.source, ?_, ?_⟩
    · rw [hnodes.releaseBranches, hn.releaseBranches, happend, List.flatMap_append,
        List.append_assoc]
    · rw [hnodes.buildBranches, hn.buildBranches, happend, List.flatMap_append, List.append_assoc]

theorem represents_ofNode {p : RepositoryPolicy} {n : Node} (h : ofNode n = .ok p) :
    p.Represents n := by
  have hread := h
  unfold ofNode at h
  split at h
  · next id path htexts =>
    obtain ⟨hsource, hrelease, hbuild⟩ := extends_foldlM h
    exact ⟨hread, by rw [htexts, hsource], hrelease, hbuild, fun b _ => b.parse?_source⟩
  · cases h

theorem set_error {p : RepositoryPolicy} {n : Node} {e : ConfigError} (h : p.set n = .error e) :
    e.Local := by
  unfold set at h
  split at h
  case h_1 | h_2 | h_3 =>
    obtain h | ⟨_, -, h⟩ := Except.bind_eq_error.1 h
    · obtain rfl := Node.flag_error h
      trivial
    · cases h
  case h_4 =>
    obtain h | ⟨_, -, h⟩ := Except.bind_eq_error.1 h
    · obtain rfl := Node.textFor_error h
      trivial
    · split at h
      · cases h
      · obtain rfl := Except.error.inj h
        trivial
  case h_5 | h_6 =>
    obtain h | ⟨_, -, h⟩ := Except.bind_eq_error.1 h
    · obtain ⟨_, -, rfl⟩ := Node.patterns_error h
      trivial
    · cases h
  case h_7 => cases h

theorem ofNode_error {n : Node} {e : ConfigError} (h : ofNode n = .error e) : e.Local := by
  unfold ofNode at h
  split at h
  · obtain ⟨-, _, -, _, -, -, h⟩ := Except.foldlM_eq_error h
    exact set_error h
  · obtain rfl := Except.error.inj h
    trivial

end RepositoryPolicy

/-- Each entry of two lists that match has a partner. -/
theorem exists_partner {α β : Type} {R : α → β → Prop} {l : List α} {l' : List β}
    (h : List.Forall₂ R l l') :
    (∀ a ∈ l, ∃ b ∈ l', R a b) ∧ ∀ b ∈ l', ∃ a ∈ l, R a b := by
  induction h with
  | nil => simp
  | @cons a b _ _ hab _ ih =>
    rw [List.forall_mem_cons, List.forall_mem_cons]
    refine ⟨⟨⟨b, List.mem_cons_self, hab⟩, fun x hx => ?_⟩, ⟨a, List.mem_cons_self, hab⟩,
      fun y hy => ?_⟩
    · obtain ⟨y, hy, hxy⟩ := ih.1 x hx
      exact ⟨y, List.mem_cons_of_mem b hy, hxy⟩
    · obtain ⟨x, hx, hxy⟩ := ih.2 y hy
      exact ⟨x, List.mem_cons_of_mem a hx, hxy⟩

namespace SystemConfig

/-- A configuration that stands for a document. -/
structure Represents (c : SystemConfig) (d : Document) : Prop where
  coordinator : c.coordinator.WellFormed
  /-- The last of the nodes for the coordinator counts. -/
  last : (Kdl.named "coordinator" d).getLast?.elim (c.coordinator = {})
    fun n => Coordinator.ofNode n = .ok c.coordinator
  /-- There is a policy for each repository node, in order. -/
  policies : List.Forall₂ (fun n p => p.Represents n) (Kdl.named "repository" d) c.repositories
  apart : (c.repositories.map (·.source)).Nodup
  /-- A repository has the policy of the one node that names it, or none. -/
  lookup : ∀ source, (d.naming source = [] ∧ c.repository source = none) ∨
    ∃ n p, d.naming source = [n] ∧ p.Represents n ∧ c.repository source = some p

/-- What it takes to accept a document. -/
structure Acceptable (d : Document) : Prop where
  coordinators : ∀ n ∈ d, n.name = "coordinator" → ∃ k, Coordinator.ofNode n = .ok k
  repositories : ∀ n ∈ d, n.name = "repository" → ∃ p, RepositoryPolicy.ofNode n = .ok p
  /-- No repository has two nodes. -/
  apart : ∀ source, (d.naming source).length ≤ 1

section Documents

variable {c c' : SystemConfig} {n : Node} {d : Document}

theorem add_coordinator (h : n.name = "coordinator") : c.add n = .ok c' ↔
    ∃ k, Coordinator.ofNode n = .ok k ∧ { c with coordinator := k } = c' := by
  unfold add
  simp only [h]
  rw [Except.bind_eq_ok]
  exact exists_congr fun k => and_congr_right fun _ => Except.pure_eq_ok

theorem add_repository (h : n.name = "repository") : c.add n = .ok c' ↔
    ∃ p, RepositoryPolicy.ofNode n = .ok p ∧ c.repository p.source = none ∧
      { c with repositories := c.repositories ++ [p] } = c' := by
  unfold add
  simp only [h]
  rw [Except.bind_eq_ok]
  refine exists_congr fun p => and_congr_right fun _ => ?_
  cases hp : c.repository p.source with
  | none => exact Except.pure_eq_ok.trans (and_iff_right rfl).symm
  | some q => exact ⟨fun h => (nomatch h), fun h => nomatch h.1⟩

theorem add_other (hc : n.name ≠ "coordinator") (hr : n.name ≠ "repository") :
    c.add n = .ok c := by
  unfold add
  split
  · exact absurd ‹_› hc
  · exact absurd ‹_› hr
  · rfl

theorem repository_eq_none {source : Source} :
    c.repository source = none ↔ source ∉ c.repositories.map (·.source) := by
  simp [repository]

/-- The policies that a document adds to a configuration stand for its repository nodes, and the last
coordinator node counts. -/
theorem foldlM_add (h : d.foldlM add c = .ok c') :
    ((Kdl.named "coordinator" d).getLast?.elim (c'.coordinator = c.coordinator)
      fun n => Coordinator.ofNode n = .ok c'.coordinator) ∧
    ∃ ps, c'.repositories = c.repositories ++ ps ∧
      List.Forall₂ (fun n p => p.Represents n) (Kdl.named "repository" d) ps := by
  induction d generalizing c with
  | nil =>
    obtain rfl := Except.ok.inj h
    exact ⟨rfl, [], (List.append_nil _).symm, .nil⟩
  | cons n d ih =>
    rw [List.foldlM_cons, Except.bind_eq_ok] at h
    obtain ⟨c₁, hc₁, h⟩ := h
    obtain ⟨hlast, ps, hps, hall⟩ := ih h
    have hcons : ∀ name, Kdl.named name (n :: d) =
        if n.name = name then n :: Kdl.named name d else Kdl.named name d := fun name => by
      simp [Kdl.named, List.filter_cons]
    rw [hcons, hcons]
    by_cases hc : n.name = "coordinator"
    · have hr : n.name ≠ "repository" := by simp [hc]
      obtain ⟨k, hk, rfl⟩ := (add_coordinator hc).1 hc₁
      rw [if_pos hc, if_neg hr, List.getLast?_cons]
      refine ⟨?_, ps, hps, hall⟩
      cases hd : (Kdl.named "coordinator" d).getLast? with
      | none =>
        rw [hd] at hlast
        exact hk.trans (congrArg Except.ok hlast.symm)
      | some m =>
        rw [hd] at hlast
        exact hlast
    · rw [if_neg hc]
      by_cases hr : n.name = "repository"
      · obtain ⟨p, hp, -, rfl⟩ := (add_repository hr).1 hc₁
        rw [if_pos hr]
        exact ⟨hlast, p :: ps, by rw [hps]; simp,
          .cons (RepositoryPolicy.represents_ofNode hp) hall⟩
      · obtain rfl := Except.ok.inj ((add_other hc hr).symm.trans hc₁)
        rw [if_neg hr]
        exact ⟨hlast, ps, hps, hall⟩

theorem apart_add (hc : (c.repositories.map (·.source)).Nodup) (h : c.add n = .ok c') :
    (c'.repositories.map (·.source)).Nodup := by
  by_cases hname : n.name = "coordinator"
  · obtain ⟨k, -, rfl⟩ := (add_coordinator hname).1 h
    exact hc
  · by_cases hr : n.name = "repository"
    · obtain ⟨p, -, hnew, rfl⟩ := (add_repository hr).1 h
      rw [List.map_append, List.nodup_append]
      refine ⟨hc, List.pairwise_singleton _ _, fun a ha b hb e => repository_eq_none.1 hnew ?_⟩
      obtain rfl : b = p.source := by simpa using hb
      exact e ▸ ha
    · obtain rfl := Except.ok.inj ((add_other hname hr).symm.trans h)
      exact hc

theorem wellFormed_add
    (hfit : n.name = "coordinator" → ∀ hours ∈ n.hours, hours.toNat * 3600 < UInt64.size)
    (hc : c.coordinator.WellFormed) (h : c.add n = .ok c') : c'.coordinator.WellFormed := by
  by_cases hname : n.name = "coordinator"
  · obtain ⟨k, hk, rfl⟩ := (add_coordinator hname).1 h
    exact Coordinator.wellFormed_ofNode (hfit hname) hk
  · by_cases hr : n.name = "repository"
    · obtain ⟨p, -, -, rfl⟩ := (add_repository hr).1 h
      exact hc
    · obtain rfl := Except.ok.inj ((add_other hname hr).symm.trans h)
      exact hc

/-! ## Acceptance -/

theorem naming_cons (source : Source) : Document.naming (n :: d) source =
    if n.Names source then n :: Document.naming d source else Document.naming d source := by
  simp [Document.naming, List.filter_cons]

/-- A node names the repository of its policy and no other one. -/
theorem names_iff {p : RepositoryPolicy} (hname : n.name = "repository") (hp : p.Represents n)
    (source : Source) : n.Names source ↔ source = p.source := by
  rw [Node.Names, hp.texts]
  constructor
  · rintro ⟨-, h⟩
    obtain ⟨hid, hpath⟩ : p.source.id = source.id ∧ p.source.path = source.path := by simpa using h
    cases hs : p.source
    cases source
    simp_all
  · rintro rfl
    exact ⟨hname, rfl⟩

theorem acceptable_cons : Acceptable (n :: d) ↔
    (n.name = "coordinator" → ∃ k, Coordinator.ofNode n = .ok k) ∧
    (n.name = "repository" → ∃ p, RepositoryPolicy.ofNode n = .ok p) ∧
    (∀ source, n.Names source → Document.naming d source = []) ∧ Acceptable d := by
  have happart : (∀ source, (Document.naming (n :: d) source).length ≤ 1) ↔
      (∀ source, n.Names source → Document.naming d source = []) ∧
        ∀ source, (Document.naming d source).length ≤ 1 := by
    rw [← forall_and]
    refine forall_congr' fun source => ?_
    rw [naming_cons]
    by_cases h : n.Names source
    · rw [if_pos h, List.length_cons, ← List.length_eq_zero_iff]
      simp only [h, true_imp_iff]
      omega
    · simp [h]
  constructor
  · rintro ⟨hc, hr, ha⟩
    rw [List.forall_mem_cons] at hc hr
    obtain ⟨hnew, ha⟩ := happart.1 ha
    exact ⟨hc.1, hr.1, hnew, hc.2, hr.2, ha⟩
  · rintro ⟨hc, hr, hnew, hcs, hrs, ha⟩
    exact ⟨List.forall_mem_cons.2 ⟨hc, hcs⟩, List.forall_mem_cons.2 ⟨hr, hrs⟩,
      happart.2 ⟨hnew, ha⟩⟩

/-- The nodes of a document name none of the repositories that a configuration has. -/
def Spares (c : SystemConfig) (d : Document) : Prop :=
  ∀ p ∈ c.repositories, d.naming p.source = []

theorem spares_cons_of_ne (h : n.name ≠ "repository") : c.Spares (n :: d) ↔ c.Spares d := by
  refine forall₂_congr fun p _ => ?_
  rw [naming_cons, if_neg fun hn => h hn.1]

theorem spares_cons {p : RepositoryPolicy} (h : n.name = "repository") (hp : p.Represents n) :
    c.Spares (n :: d) ↔ c.repository p.source = none ∧ c.Spares d := by
  have hq : ∀ q ∈ c.repositories, Document.naming (n :: d) q.source = [] ↔
      q.source ≠ p.source ∧ Document.naming d q.source = [] := fun q _ => by
    rw [naming_cons, ne_eq, ← names_iff h hp q.source]
    split
    · next hn =>
      constructor
      · intro e
        cases e
      · exact fun e => absurd hn e.1
    · next hn => exact (and_iff_right hn).symm
  rw [Spares, forall₂_congr hq, repository_eq_none, Spares]
  simp only [forall_and, List.mem_map, not_exists, not_and]

theorem spares_append {p : RepositoryPolicy} : Spares { c with repositories := c.repositories ++ [p] } d
    ↔ c.Spares d ∧ Document.naming d p.source = [] := by
  rw [Spares, List.forall_mem_append, List.forall_mem_singleton, Spares]

/-- A document can be added to a configuration just when it is acceptable and names none of the
repositories that there are. -/
theorem exists_foldlM_add : (∃ c', d.foldlM add c = .ok c') ↔ Acceptable d ∧ c.Spares d := by
  induction d generalizing c with
  | nil =>
    refine ⟨fun _ => ⟨⟨?_, ?_, ?_⟩, ?_⟩, fun _ => ⟨c, rfl⟩⟩ <;> simp [Document.naming, Spares]
  | cons n d ih =>
    have hstep : (∃ c', (n :: d).foldlM add c = .ok c') ↔
        ∃ c₁, c.add n = .ok c₁ ∧ Acceptable d ∧ c₁.Spares d := by
      simp only [List.foldlM_cons, Except.bind_eq_ok]
      rw [exists_comm]
      refine exists_congr fun c₁ => ?_
      rw [exists_and_left, ih]
    rw [hstep, acceptable_cons]
    by_cases hr : n.name = "repository"
    · have hc : n.name ≠ "coordinator" := by simp [hr]
      constructor
      · rintro ⟨c₁, hc₁, had, hfree⟩
        obtain ⟨p, hp, hnew, rfl⟩ := (add_repository hr).1 hc₁
        have hn := RepositoryPolicy.represents_ofNode hp
        obtain ⟨hfree, halone⟩ := spares_append.1 hfree
        exact ⟨⟨fun h => absurd h hc, fun _ => ⟨p, hp⟩,
          fun s hs => (names_iff hr hn s).1 hs ▸ halone, had⟩, (spares_cons hr hn).2 ⟨hnew, hfree⟩⟩
      · rintro ⟨⟨-, hp, halone, had⟩, hfree⟩
        obtain ⟨p, hp⟩ := hp hr
        have hn := RepositoryPolicy.represents_ofNode hp
        obtain ⟨hnew, hfree⟩ := (spares_cons hr hn).1 hfree
        exact ⟨_, (add_repository hr).2 ⟨p, hp, hnew, rfl⟩, had,
          spares_append.2 ⟨hfree, halone _ ((names_iff hr hn _).2 rfl)⟩⟩
    · have halone : ∀ s, n.Names s → Document.naming d s = [] := fun s hs => absurd hs.1 hr
      rw [spares_cons_of_ne hr]
      by_cases hc : n.name = "coordinator"
      · constructor
        · rintro ⟨c₁, hc₁, had, hfree⟩
          obtain ⟨k, hk, rfl⟩ := (add_coordinator hc).1 hc₁
          exact ⟨⟨fun _ => ⟨k, hk⟩, fun h => absurd h hr, halone, had⟩, hfree⟩
        · rintro ⟨⟨hk, -, -, had⟩, hfree⟩
          obtain ⟨k, hk⟩ := hk hc
          exact ⟨_, (add_coordinator hc).2 ⟨k, hk, rfl⟩, had, hfree⟩
      · rw [add_other hc hr]
        constructor
        · rintro ⟨c₁, hc₁, had, hfree⟩
          obtain rfl := Except.ok.inj hc₁
          exact ⟨⟨fun h => absurd h hc, fun h => absurd h hr, halone, had⟩, hfree⟩
        · rintro ⟨⟨-, -, -, had⟩, hfree⟩
          exact ⟨c, rfl, had, hfree⟩

/-! ## Refusals -/

/-- A node of a document is refused for a reason of its own, or because it names a repository that
an earlier one has named. -/
theorem add_error {e : ConfigError} (h : c.add n = .error e) :
    e.Local ∨ n.name = "repository" ∧ ∃ p, RepositoryPolicy.ofNode n = .ok p ∧
      e = .duplicateRepository p.source ∧ p.source ∈ c.repositories.map (·.source) := by
  unfold add at h
  split at h
  case h_1 =>
    obtain h | ⟨_, -, h⟩ := Except.bind_eq_error.1 h
    · exact .inl (Coordinator.ofNode_error h)
    · cases h
  case h_2 hname =>
    obtain h | ⟨p, hp, h⟩ := Except.bind_eq_error.1 h
    · exact .inl (RepositoryPolicy.ofNode_error h)
    · split at h
      · next hsome =>
        obtain rfl := Except.error.inj h
        refine .inr ⟨hname, p, hp, rfl, ?_⟩
        by_contra hnew
        rw [repository_eq_none.2 hnew] at hsome
        cases hsome
      · cases h
  case h_3 => cases h

theorem mem_naming {source : Source} :
    n ∈ Document.naming d source ↔ n ∈ d ∧ n.Names source := by
  simp [Document.naming]

theorem mem_named {name : String} : n ∈ Kdl.named name d ↔ n ∈ d ∧ n.name = name := by
  simp [Kdl.named]

/-- A document is refused for a repeated repository only if it has two nodes that name it. -/
theorem naming_of_duplicate {source : Source}
    (h : ofDocument d = .error (.duplicateRepository source)) :
    2 ≤ (Document.naming d source).length := by
  obtain ⟨before, n, after, c, rfl, hbefore, h⟩ := Except.foldlM_eq_error h
  obtain hlocal | ⟨hname, p, hp, hsource, hmem⟩ := add_error h
  · cases hlocal
  · obtain rfl := ConfigError.duplicateRepository.inj hsource
    have hn := (names_iff hname (RepositoryPolicy.represents_ofNode hp) p.source).2 rfl
    obtain ⟨-, ps, hps, hall⟩ := foldlM_add hbefore
    obtain ⟨q, hq, hqs⟩ := List.mem_map.1 hmem
    obtain ⟨m, hm, hqm⟩ := (exists_partner hall).2 q (by simpa [hps] using hq)
    obtain ⟨hm, hmname⟩ := mem_named.1 hm
    have hmem : m ∈ Document.naming before p.source :=
      mem_naming.2 ⟨hm, (names_iff hmname hqm p.source).2 hqs.symm⟩
    have hlength := List.length_pos_of_mem hmem
    have happend : Document.naming (before ++ n :: after) p.source =
        Document.naming before p.source ++ n :: Document.naming after p.source := by
      rw [Document.naming, List.filter_append, List.filter_cons_of_pos (by simpa using hn)]
      rfl
    rw [happend, List.length_append, List.length_cons]
    omega

/-! ## Accepted documents -/

theorem isOk_ofDocument : (∃ c, ofDocument d = .ok c) ↔ Acceptable d := by
  rw [ofDocument, exists_foldlM_add]
  exact and_iff_left fun p hp => absurd hp List.not_mem_nil

theorem lookup_of_policies
    (hall : List.Forall₂ (fun n p => p.Represents n) (Kdl.named "repository" d) c.repositories)
    (hapart : (c.repositories.map (·.source)).Nodup) {source : Source}
    (hone : (Document.naming d source).length ≤ 1) :
    (Document.naming d source = [] ∧ c.repository source = none) ∨
      ∃ n p, Document.naming d source = [n] ∧ p.Represents n ∧ c.repository source = some p := by
  cases hnaming : Document.naming d source with
  | nil =>
    refine .inl ⟨rfl, repository_eq_none.2 fun hmem => ?_⟩
    obtain ⟨p, hp, rfl⟩ := List.mem_map.1 hmem
    obtain ⟨n, hn, hpn⟩ := (exists_partner hall).2 p hp
    obtain ⟨hn, hname⟩ := mem_named.1 hn
    have : n ∈ Document.naming d p.source := mem_naming.2 ⟨hn, (names_iff hname hpn _).2 rfl⟩
    rw [hnaming] at this
    cases this
  | cons n rest =>
    obtain rfl : rest = [] := by
      rw [hnaming, List.length_cons] at hone
      exact List.length_eq_zero_iff.1 (by omega)
    obtain ⟨hn, hnames⟩ := mem_naming.1 (hnaming ▸ List.mem_cons_self : n ∈ Document.naming d source)
    obtain ⟨p, hp, hpn⟩ := (exists_partner hall).1 n (mem_named.2 ⟨hn, hnames.1⟩)
    obtain rfl := (names_iff hnames.1 hpn source).1 hnames
    refine .inr ⟨n, p, rfl, hpn, ?_⟩
    cases hfound : c.repository p.source with
    | none => exact absurd (List.mem_map_of_mem hp) (repository_eq_none.1 hfound)
    | some q =>
      have hq : q.source = p.source := by simpa using List.find?_some hfound
      rw [List.inj_on_of_nodup_map hapart (List.mem_of_find?_eq_some hfound) hp hq]

theorem represents_ofDocument (hfit : Document.HoursFit d) (h : ofDocument d = .ok c) :
    c.Represents d := by
  obtain ⟨hlast, ps, hps, hall⟩ := foldlM_add h
  obtain rfl : c.repositories = ps := by simpa using hps
  have hapart : (c.repositories.map (·.source)).Nodup :=
    Except.foldlM_induction (fun c : SystemConfig => (c.repositories.map (·.source)).Nodup)
      (fun _ _ _ _ => apart_add) (b := {}) List.nodup_nil h
  constructor
  case coordinator =>
    refine Except.foldlM_induction (fun c : SystemConfig => c.coordinator.WellFormed)
      (fun _ _ n hn => wellFormed_add fun hname => hfit n (mem_named.2 ⟨hn, hname⟩))
      Coordinator.wellFormed_default h
  case last => exact hlast
  case policies => exact hall
  case apart => exact hapart
  case lookup =>
    intro source
    exact lookup_of_policies hall hapart ((isOk_ofDocument.1 ⟨c, h⟩).apart source)

end Documents

/-- Every accepted configuration is well-formed and stands for its document. A document is accepted
just when all of its nodes can be read and no repository has two of them, and only of a repository
that has two it is said that it is configured more than once. -/
theorem ofDocument_exact (d : Document) (hfit : d.HoursFit) :
    (∀ c, ofDocument d = .ok c → c.Represents d) ∧
    ((∃ c, ofDocument d = .ok c) ↔ Acceptable d) ∧
    (∀ source, 2 ≤ (d.naming source).length → ∃ e, ofDocument d = .error e) ∧
    ∀ source, ofDocument d = .error (.duplicateRepository source) →
      2 ≤ (d.naming source).length := by
  refine ⟨fun c => represents_ofDocument hfit, isOk_ofDocument, fun source htwo => ?_,
    fun source => naming_of_duplicate⟩
  cases h : ofDocument d with
  | error e => exact ⟨e, rfl⟩
  | ok c =>
    have := (isOk_ofDocument.1 ⟨c, h⟩).apart source
    omega

/-- A document whose two repositories have the same name for people, between settings of the
coordinator that come twice. -/
def lookalikes : Document :=
  [⟨"coordinator", [], [⟨"concurrency", [⟨none, .integer 8⟩], []⟩]⟩,
    ⟨"repository", [⟨none, .text "a"⟩, ⟨none, .text "b/c"⟩], []⟩,
    ⟨"repository", [⟨none, .text "a/b"⟩, ⟨none, .text "c"⟩],
      [⟨"build-branch", [⟨none, .text "main"⟩, ⟨none, .text "v[0-9]+"⟩], []⟩]⟩,
    ⟨"coordinator", [], [⟨"key-prefix", [⟨none, .text "ci"⟩], []⟩,
      ⟨"status-ttl-hours", [⟨none, .integer 24⟩], []⟩]⟩]

theorem ofDocument_exact_lookalikes : lookalikes.HoursFit ∧ Acceptable lookalikes ∧
    ∃ c, ofDocument lookalikes = .ok c ∧ c.Represents lookalikes ∧ c.coordinator.concurrency = 4 ∧
      c.repositories.map (·.source) = [⟨"a", "b/c"⟩, ⟨"a/b", "c"⟩] := by
  have hfit : lookalikes.HoursFit := by decide +kernel
  obtain ⟨hrep, hok, -, -⟩ := ofDocument_exact lookalikes hfit
  have hread : (ofDocument lookalikes).toOption.map
      (fun c => (c.coordinator.concurrency, c.repositories.map (·.source))) =
      some (4, [⟨"a", "b/c"⟩, ⟨"a/b", "c"⟩]) := by decide +kernel
  cases hc : ofDocument lookalikes with
  | error e =>
    rw [hc] at hread
    cases hread
  | ok c =>
    rw [hc] at hread
    obtain ⟨hjobs, hsources⟩ := Prod.mk.inj (Option.some.inj hread)
    exact ⟨hfit, hok.1 ⟨c, hc⟩, c, rfl, hrep c hc, hjobs, hsources⟩

end SystemConfig

end BuildQueue
