import BuildQueue.Prog
import Mathlib.Data.Set.Insert

/-!
# Paths through a program

A program that is answered again and again walks down its tree. `Path` ties what it was before, what
it asked and was answered in between, and what is left of it. `Obeys` says that whatever the program
is answered, it asks only for what a rule allows; so what was asked along a path was allowed
(`Obeys.of_path`). `Justified` does so by all the exchanges that the program has had, and `Abides`
by the state of an automaton that reads its requests. `Leads` says where the run of a program ends,
from where it starts, and `visits` is what it asks on its way.
-/

namespace BuildQueue

/-- A request and what it was answered. -/
structure Exchange (I : Interface) where
  request : I.Request
  reply : I.Reply request

/-- The program makes the requests of the trace, is answered as the trace says, and is `q` then. -/
inductive Prog.Path {I : Interface} {α : Type} :
    Prog I α → List (Exchange I) → Prog I α → Prop where
  | nil (p : Prog I α) : Path p [] p
  | cons {r : I.Request} {next : I.Reply r → Prog I α} {x : I.Reply r} {trace : List (Exchange I)}
    {q : Prog I α} (h : Path (next x) trace q) : Path (.ask r next) (⟨r, x⟩ :: trace) q

namespace Prog.Path

variable {I : Interface} {α β : Type} {trace : List (Exchange I)}

theorem done_inv {a : α} {q : Prog I α} (h : (Prog.done a).Path trace q) :
    trace = [] ∧ q = .done a := by
  cases h
  exact ⟨rfl, rfl⟩

/-- A path from a request is empty, or starts with an answer to it. -/
theorem ask_inv {r : I.Request} {next : I.Reply r → Prog I α} {q : Prog I α}
    (h : (Prog.ask r next).Path trace q) : (trace = [] ∧ q = .ask r next) ∨
      ∃ x rest, trace = ⟨r, x⟩ :: rest ∧ (next x).Path rest q := by
  cases h with
  | nil => exact .inl ⟨rfl, rfl⟩
  | cons h => exact .inr ⟨_, _, rfl, h⟩

/-- One more answer. -/
theorem snoc {p : Prog I α} {r : I.Request} {next : I.Reply r → Prog I α}
    (h : p.Path trace (.ask r next)) (x : I.Reply r) : p.Path (trace ++ [⟨r, x⟩]) (next x) := by
  generalize hq : Prog.ask r next = q at h
  induction h with
  | nil p =>
    subst hq
    exact .cons (.nil _)
  | cons _ ih => exact .cons (ih hq)

/-- Two programs in a row: the path is still in the first one, or has come to its end. -/
theorem bind_inv {p : Prog I α} {f : α → Prog I β} {q : Prog I β}
    (h : (p.bind f).Path trace q) : (∃ p', p.Path trace p' ∧ q = p'.bind f) ∨
      ∃ first second a, trace = first ++ second ∧ p.Path first (.done a) ∧
        (f a).Path second q := by
  induction p generalizing trace with
  | done a => exact .inr ⟨[], trace, a, rfl, .nil _, h⟩
  | ask r next ih =>
    rcases ask_inv h with ⟨rfl, rfl⟩ | ⟨x, rest, rfl, hrest⟩
    · exact .inl ⟨_, .nil _, rfl⟩
    · rcases ih x hrest with ⟨p', hp, rfl⟩ | ⟨first, second, a, rfl, hp, hf⟩
      · exact .inl ⟨p', .cons hp, rfl⟩
      · exact .inr ⟨_ :: first, second, a, rfl, .cons hp, hf⟩

/-- A program whose result is looked at goes down the path of the program. -/
theorem map_inv {p : Prog I α} {f : α → β} {q : Prog I β}
    (h : (p.bind fun a => .done (f a)).Path trace q) :
    ∃ p', p.Path trace p' ∧ ∀ b, q = .done b → ∃ a, p' = .done a ∧ b = f a := by
  obtain ⟨p', hp, rfl⟩ | ⟨first, second, a, rfl, hp, hd⟩ := h.bind_inv
  · refine ⟨p', hp, fun b e => ?_⟩
    cases p' with
    | done a => exact ⟨a, rfl, (Prog.done.inj e).symm⟩
    | ask r next => cases e
  · obtain ⟨rfl, rfl⟩ := hd.done_inv
    rw [List.append_nil]
    exact ⟨.done a, hp, fun b e => ⟨a, rfl, (Prog.done.inj e).symm⟩⟩

theorem pure_inv {a b : α} (h : (Pure.pure a : Prog I α).Path trace (.done b)) :
    trace = [] ∧ b = a := by
  obtain ⟨htrace, e⟩ := done_inv h
  exact ⟨htrace, Prog.done.inj e⟩

/-- A program that is done after a request has been answered. -/
theorem ask_done_inv {r : I.Request} {next : I.Reply r → Prog I α} {a : α}
    (h : (Prog.ask r next).Path trace (.done a)) :
    ∃ x rest, trace = ⟨r, x⟩ :: rest ∧ (next x).Path rest (.done a) := by
  obtain ⟨-, e⟩ | hanswered := h.ask_inv
  · cases e
  · exact hanswered

/-- Two programs in a row that are done: so is the first one, and then the second. -/
theorem bind_done_inv {p : Prog I α} {f : α → Prog I β} {b : β}
    (h : (p.bind f).Path trace (.done b)) : ∃ first second a, trace = first ++ second ∧
      p.Path first (.done a) ∧ (f a).Path second (.done b) := by
  obtain ⟨p', hp, e⟩ | hboth := h.bind_inv
  · cases p' with
    | done a => exact ⟨trace, [], a, (List.append_nil _).symm, hp, e ▸ .nil _⟩
    | ask r next => cases e
  · exact hboth

/-- A path, and one that goes on where it ends. -/
theorem append {p q r : Prog I α} {more : List (Exchange I)} (h : p.Path trace q)
    (hmore : q.Path more r) : p.Path (trace ++ more) r := by
  induction h with
  | nil p => exact hmore
  | cons _ ih => exact .cons (ih hmore)

end Prog.Path

/-- Where every request can be answered, a program can be brought to its end. -/
theorem Prog.exists_path_done {I : Interface} {α : Type} [∀ r, Nonempty (I.Reply r)]
    (p : Prog I α) : ∃ trace a, p.Path trace (.done a) := by
  induction p with
  | done a => exact ⟨[], a, .nil _⟩
  | ask r next ih =>
    obtain ⟨x⟩ : Nonempty (I.Reply r) := inferInstance
    obtain ⟨trace, a, h⟩ := ih x
    exact ⟨⟨r, x⟩ :: trace, a, .cons h⟩

/-- An exchange of the first kind as one of either kind. -/
def Exchange.inl {I J : Interface} (x : Exchange I) : Exchange (I.sum J) :=
  ⟨.inl x.request, x.reply⟩

/-- The part of an exchange that is of the first kind. -/
def Exchange.inl? {I J : Interface} : Exchange (I.sum J) → Option (Exchange I)
  | ⟨.inl r, x⟩ => some ⟨r, x⟩
  | ⟨.inr _, _⟩ => none

/-- A program with requests of the first kind goes down a path of such requests. -/
theorem Prog.Path.of_inl {I J : Interface} {α : Type} {p : Prog I α} {q : Prog (I.sum J) α}
    {trace : List (Exchange (I.sum J))} (h : (p.inl (J := J)).Path trace q) :
    ∃ trace' p', trace = trace'.map Exchange.inl ∧ q = p'.inl ∧ p.Path trace' p' := by
  induction p generalizing trace with
  | done a =>
    obtain ⟨rfl, rfl⟩ := h.done_inv
    exact ⟨[], .done a, rfl, rfl, .nil _⟩
  | ask r next ih =>
    obtain ⟨rfl, rfl⟩ | ⟨x, rest, rfl, hrest⟩ := h.ask_inv
    · exact ⟨[], .ask r next, rfl, rfl, .nil _⟩
    · obtain ⟨trace', p', rfl, rfl, hp⟩ := ih x hrest
      exact ⟨⟨r, x⟩ :: trace', p', rfl, rfl, .cons hp⟩

/-- Whatever the program is answered, each request that it makes is one that `P` allows after the
exchange before it; after `none`, what was before is not known. -/
def Prog.Obeys {I : Interface} {α : Type} (P : Option (Exchange I) → I.Request → Prop) :
    Option (Exchange I) → Prog I α → Prop
  | _, .done _ => True
  | last, .ask r next => P last r ∧ ∀ x, (next x).Obeys P (some ⟨r, x⟩)

namespace Prog.Obeys

variable {I J : Interface} {α β : Type} {P : Option (Exchange I) → I.Request → Prop}
  {last : Option (Exchange I)}

theorem pure (a : α) : (Pure.pure a : Prog I α).Obeys P last := trivial

/-- What is allowed after anything is allowed. -/
theorem weaken (hP : ∀ {last r}, P none r → P last r) {p : Prog I α} (h : p.Obeys P none) :
    p.Obeys P last := by
  cases p with
  | done a => trivial
  | ask r next => exact ⟨hP h.1, h.2⟩

theorem bind (hP : ∀ {last r}, P none r → P last r) {p : Prog I α} {f : α → Prog I β}
    (hp : p.Obeys P last) (hf : ∀ a, (f a).Obeys P none) : (p >>= f).Obeys P last := by
  induction p generalizing last with
  | done a => exact weaken hP (hf a)
  | ask r next ih => exact ⟨hp.1, fun x => ih x (hp.2 x)⟩

theorem inl {Q : Option (Exchange (I.sum J)) → (I.sum J).Request → Prop}
    {last : Option (Exchange (I.sum J))}
    (hQ : ∀ last r, P (last.bind Exchange.inl?) r → Q last (.inl r)) {p : Prog I α}
    (hp : p.Obeys P (last.bind Exchange.inl?)) : (p.inl (J := J)).Obeys Q last := by
  induction p generalizing last with
  | done a => trivial
  | ask r next ih => exact ⟨hQ _ _ hp.1, fun x => ih x (hp.2 x)⟩

/-- The requests along a path are allowed, each after the exchange before it. -/
theorem of_path {p q : Prog I α} {trace : List (Exchange I)} (h : p.Path trace q)
    (hp : p.Obeys P last) : q.Obeys P (trace.getLast?.or last) ∧
      ∀ before x after, trace = before ++ x :: after → P (before.getLast?.or last) x.request := by
  have hlast : ∀ (y : Exchange I) (l : List (Exchange I)) (last : Option (Exchange I)),
      (y :: l).getLast?.or last = l.getLast?.or (some y) := fun y l last => by
    rw [List.getLast?_cons]
    cases l.getLast? <;> rfl
  induction h generalizing last with
  | nil p =>
    refine ⟨hp, fun before x after e => ?_⟩
    cases before <;> cases e
  | @cons r next x trace q _ ih =>
    obtain ⟨hq, hrest⟩ := ih (hp.2 x)
    refine ⟨by rwa [hlast], fun before y after e => ?_⟩
    cases before with
    | nil =>
      obtain ⟨rfl, -⟩ := List.cons.inj e
      exact hp.1
    | cons z before =>
      obtain ⟨rfl, hrest'⟩ := List.cons.inj e
      rw [hlast]
      exact hrest before y after hrest'

end Prog.Obeys

/-- Whatever the program is answered, each request that it makes is one that `P` allows by the
exchanges so far, and its result is one that `Q` allows by them. -/
def Prog.Justified {I : Interface} {α : Type} (P : Set (Exchange I) → I.Request → Prop)
    (Q : Set (Exchange I) → α → Prop) : Set (Exchange I) → Prog I α → Prop
  | past, .done a => Q past a
  | past, .ask r next => P past r ∧ ∀ x, (next x).Justified P Q (insert ⟨r, x⟩ past)

namespace Prog.Justified

variable {I : Interface} {α β : Type} {P : Set (Exchange I) → I.Request → Prop}
  {Q : Set (Exchange I) → α → Prop} {R : Set (Exchange I) → β → Prop} {past : Set (Exchange I)}

theorem pure {a : α} (h : Q past a) : (Pure.pure a : Prog I α).Justified P Q past := h

/-- The second program may rest on what the first one was told. -/
theorem bind {p : Prog I α} {f : α → Prog I β} (hp : p.Justified P Q past)
    (hf : ∀ a later, past ⊆ later → Q later a → (f a).Justified P R later) :
    (p >>= f).Justified P R past := by
  induction p generalizing past with
  | done a => exact hf a past subset_rfl hp
  | ask r next ih =>
    refine ⟨hp.1, fun x => ih x (hp.2 x) fun a later hl => hf a later ?_⟩
    exact (Set.subset_insert _ _).trans hl

theorem forget {p : Prog I α} (h : p.Justified P Q past) :
    p.Justified P (fun _ _ => True) past := by
  induction p generalizing past with
  | done a => trivial
  | ask r next ih => exact ⟨h.1, fun x => ih x (h.2 x)⟩

/-- What is left of a program rests on the exchanges along the path to it. -/
theorem of_path {p q : Prog I α} {trace : List (Exchange I)} (h : p.Path trace q)
    (hp : p.Justified P Q past) : q.Justified P Q (past ∪ {x | x ∈ trace}) := by
  induction h generalizing past with
  | nil p => simpa using hp
  | @cons r next x trace q _ ih =>
    have hq := ih (hp.2 x)
    have hset : insert ⟨r, x⟩ past ∪ {y | y ∈ trace} = past ∪ {y | y ∈ ⟨r, x⟩ :: trace} := by
      ext y
      simp only [Set.mem_union, Set.mem_insert_iff, Set.mem_ofPred_eq, List.mem_cons, or_assoc,
        or_left_comm]
    rwa [hset] at hq

end Prog.Justified

/-- Whatever the program is answered, its requests are moves of an automaton, which is in a state
that `Q` allows when the program is done. -/
def Prog.Abides {I : Interface} {α σ : Type} (move : σ → I.Request → Option σ) (Q : σ → Prop) :
    σ → Prog I α → Prop
  | s, .done _ => Q s
  | s, .ask r next => ∃ t, move s r = some t ∧ ∀ x, (next x).Abides move Q t

namespace Prog.Abides

variable {I : Interface} {α β σ : Type} {move : σ → I.Request → Option σ} {Q : σ → Prop} {s t : σ}

theorem bind {p : Prog I α} {f : α → Prog I β} (hp : p.Abides move (· = t) s)
    (hf : ∀ a, (f a).Abides move Q t) : (p >>= f).Abides move Q s := by
  induction p generalizing s with
  | done a =>
    obtain rfl : s = t := hp
    exact hf a
  | ask r next ih =>
    obtain ⟨u, hu, hnext⟩ := hp
    exact ⟨u, hu, fun x => ih x (hnext x)⟩

/-- The automaton reads the requests along a path. -/
theorem of_path {p q : Prog I α} {trace : List (Exchange I)} (h : p.Path trace q)
    (hp : p.Abides move Q s) :
    ∃ t, trace.foldlM (fun s x => move s x.request) s = some t ∧ q.Abides move Q t := by
  induction h generalizing s with
  | nil p => exact ⟨s, rfl, hp⟩
  | @cons r next x trace q _ ih =>
    obtain ⟨u, hu, hnext⟩ := hp
    obtain ⟨t, ht, hq⟩ := ih (hnext x)
    refine ⟨t, ?_, hq⟩
    rw [List.foldlM_cons]
    show (move s r >>= _) = _
    rw [hu]
    exact ht

end Prog.Abides

/-! ## Runs -/

namespace Prog

variable {I J : Interface} {α β σ : Type} {serve : (r : I.Request) → σ → I.Reply r × σ}

theorem run_bind (p : Prog I α) (f : α → Prog I β) (s : σ) :
    (p.bind f).run serve s = (f (p.run serve s).1).run serve (p.run serve s).2 := by
  induction p generalizing s with
  | done a => rfl
  | ask r next ih => exact ih _ _

theorem run_inl {serve : (r : (I.sum J).Request) → σ → (I.sum J).Reply r × σ} (p : Prog I α)
    (s : σ) : (p.inl (J := J)).run serve s = p.run (fun r => serve (.inl r)) s := by
  induction p generalizing s with
  | done a => rfl
  | ask r next ih => exact ih _ _

/-- From every state where `P` holds, the run of the program ends with a result and a state for
which `Q` holds. -/
def Leads (serve : (r : I.Request) → σ → I.Reply r × σ) (P : σ → Prop) (p : Prog I α)
    (Q : α → σ → Prop) : Prop :=
  ∀ s, P s → Q (p.run serve s).1 (p.run serve s).2

namespace Leads

variable {P P' : σ → Prop} {Q Q' : α → σ → Prop} {R : β → σ → Prop}

theorem done {a : α} (h : ∀ s, P s → Q a s) : (Prog.done a).Leads serve P Q := h

/-- An answer, and what follows it. -/
theorem ask {r : I.Request} {next : I.Reply r → Prog I α} {M : I.Reply r → σ → Prop}
    (hr : ∀ s, P s → M (serve r s).1 (serve r s).2)
    (hn : ∀ x, (next x).Leads serve (M x) Q) : (Prog.ask r next).Leads serve P Q :=
  fun s hs => hn _ _ (hr s hs)

theorem request {r : I.Request} {M : I.Reply r → σ → Prop}
    (hr : ∀ s, P s → M (serve r s).1 (serve r s).2) : (Prog.request r).Leads serve P M :=
  hr

theorem bind {p : Prog I α} {f : α → Prog I β} (hp : p.Leads serve P Q)
    (hf : ∀ a, (f a).Leads serve (Q a) R) : (p.bind f).Leads serve P R := by
  intro s hs
  rw [run_bind]
  exact hf _ _ (hp s hs)

theorem weaken {p : Prog I α} (h : p.Leads serve P Q) (hP : ∀ s, P' s → P s)
    (hQ : ∀ a s, Q a s → Q' a s) : p.Leads serve P' Q' :=
  fun s hs => hQ _ _ (h s (hP s hs))

theorem of_exists {ι : Type} {P : ι → σ → Prop} {p : Prog I α}
    (h : ∀ i, p.Leads serve (P i) Q) : p.Leads serve (fun s => ∃ i, P i s) Q :=
  fun s ⟨i, hs⟩ => h i s hs

theorem of_and {A : Prop} {p : Prog I α} (h : A → p.Leads serve P Q) :
    p.Leads serve (fun s => A ∧ P s) Q :=
  fun s hs => h hs.1 s hs.2

theorem inl {serve : (r : (I.sum J).Request) → σ → (I.sum J).Reply r × σ} {p : Prog I α}
    (h : p.Leads (fun r => serve (.inl r)) P Q) : (p.inl (J := J)).Leads serve P Q := by
  intro s hs
  rw [run_inl]
  exact h s hs

end Leads

/-- The exchanges of a run, each with the state that it leaves. -/
def visits (serve : (r : I.Request) → σ → I.Reply r × σ) : Prog I α → σ → List (Exchange I × σ)
  | .done _, _ => []
  | .ask r next, s =>
    (⟨r, (serve r s).1⟩, (serve r s).2) :: (next (serve r s).1).visits serve (serve r s).2

theorem visits_bind (p : Prog I α) (f : α → Prog I β) (s : σ) :
    (p.bind f).visits serve s =
      p.visits serve s ++ (f (p.run serve s).1).visits serve (p.run serve s).2 := by
  induction p generalizing s with
  | done a => rfl
  | ask r next ih => exact congrArg (_ :: ·) (ih _ _)

/-- The last one of the states of a run is that in which it ends. -/
theorem getLast?_visits (p : Prog I α) (s : σ) :
    (s :: (p.visits serve s).map Prod.snd).getLast? = some (p.run serve s).2 := by
  induction p generalizing s with
  | done a => rfl
  | ask r next ih => exact ih _ _

/-- A run goes down the path of its visits. -/
theorem path_visits (serve : (r : I.Request) → σ → I.Reply r × σ) (p : Prog I α) (s : σ) :
    p.Path ((p.visits serve s).map Prod.fst) (.done (p.run serve s).1) := by
  induction p generalizing s with
  | done a => exact .nil _
  | ask r next ih => exact .cons (ih _ _)

end Prog

end BuildQueue
