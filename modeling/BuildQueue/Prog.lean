/-!
# Programs that ask their surroundings

A program is a tree: it is done, or it asks for one thing and goes on with the answer. Everything
that takes effect is a request, so whoever runs a program decides what happens between two of them.
-/

namespace BuildQueue

/-- What a program may ask for, and what it is answered. -/
structure Interface where
  Request : Type
  Reply : Request → Type

/-- Requests of either of two kinds. -/
def Interface.sum (I J : Interface) : Interface where
  Request := I.Request ⊕ J.Request
  Reply
    | .inl r => I.Reply r
    | .inr r => J.Reply r

/-- A program with a result. -/
inductive Prog (I : Interface) (α : Type) where
  | done (a : α)
  | ask (r : I.Request) (next : I.Reply r → Prog I α)

namespace Prog

variable {I J : Interface} {α β γ : Type}

/-- Goes on with a second program. -/
def bind (p : Prog I α) (f : α → Prog I β) : Prog I β :=
  match p with
  | done a => f a
  | ask r next => ask r fun x => (next x).bind f

instance : Monad (Prog I) where
  pure := done
  bind := bind

/-- The program that asks for one thing. -/
def request (r : I.Request) : Prog I (I.Reply r) := ask r done

/-- A program with requests of the first kind as one with requests of both. -/
def inl : Prog I α → Prog (I.sum J) α
  | done a => done a
  | ask r next => ask (Sum.inl r) fun x => (next x).inl

/-- A program that asks for other things in place of each request. -/
def substitute (serve : (r : I.Request) → Prog J (I.Reply r)) : Prog I α → Prog J α
  | done a => done a
  | ask r next => (serve r).bind fun x => (next x).substitute serve

/-- Runs a program whose requests take effect in a monad. -/
def runM {m : Type → Type} [Monad m] (serve : (r : I.Request) → m (I.Reply r)) : Prog I α → m α
  | done a => pure a
  | ask r next => do (next (← serve r)).runM serve

/-- Runs a program against surroundings that answer each request at once. -/
def run {σ : Type} (serve : (r : I.Request) → σ → I.Reply r × σ) : Prog I α → σ → α × σ
  | done a, s => (a, s)
  | ask r next, s =>
    let (x, s) := serve r s
    (next x).run serve s

@[simp] theorem done_bind (a : α) (f : α → Prog I β) : (done a).bind f = f a := rfl

@[simp] theorem ask_bind (r : I.Request) (next : I.Reply r → Prog I α) (f : α → Prog I β) :
    (ask r next).bind f = ask r fun x => (next x).bind f := rfl

theorem bind_done (p : Prog I α) : p.bind done = p := by
  induction p with
  | done a => rfl
  | ask r next ih => simp [ih]

theorem bind_assoc (p : Prog I α) (f : α → Prog I β) (g : β → Prog I γ) :
    (p.bind f).bind g = p.bind fun a => (f a).bind g := by
  induction p with
  | done a => rfl
  | ask r next ih => simp [ih]

instance : LawfulMonad (Prog I) :=
  LawfulMonad.mk' _ (fun p => bind_done p) (fun _ _ => rfl) (fun p f g => bind_assoc p f g)

end Prog

end BuildQueue
