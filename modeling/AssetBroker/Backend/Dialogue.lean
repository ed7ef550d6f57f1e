import AssetBroker.Backend.Call

/-! Dialogues: what the library does, as a tree of the questions it asks and the events
it reports, each answer choosing how to go on. A world answers the questions from a
state of its own. What passed between the two is a transcript, so that what was asked,
in which order and how often, can be read off it. -/
namespace AssetBroker

/-- The questions of a dialogue that may change the world. -/
inductive Query (V : Vendor) where
  | construct (constructor : V.Constructor)
  | call (backend : V.Backend) (call : Call V.State)
  | page (pager : V.Pager) (call : PagerCall)
  /-- Nobody will ask the pager again. -/
  | release (pager : V.Pager)

def Query.Answer {V : Vendor} : Query V → Type
  | construct _ => V.Backend
  | call _ question => question.Answer V
  | page _ question => question.Answer
  | release _ => Unit

inductive Dialogue (V : Vendor) (α : Type) where
  | done (value : α)
  | log (event : Event) (rest : Dialogue V α)
  /-- Backends know who they are without changing. -/
  | identify (backend : V.Backend) (rest : Identity → Dialogue V α)
  | ask (query : Query V) (rest : query.Answer → Dialogue V α)

/-- Answers to all questions, from a state that the answers may change. Whoever answers
may use the library in doing so, and comes back with the events of that. -/
structure World (V : Vendor) (σ : Type) where
  identity : V.Backend → σ → Identity
  answer : (query : Query V) → σ → Logged query.Answer × σ

/-- A question with its answer. -/
abbrev Exchange (V : Vendor) := (query : Query V) × query.Answer

/-- What came of a dialogue: its value and the state of the world after it, and on the
way the events and the exchanges, in order. -/
structure Transcript (V : Vendor) (σ α : Type) where
  value : α
  state : σ
  log : List Event
  exchanges : List (Exchange V)

namespace Dialogue

variable {V : Vendor} {σ α β : Type}

def bind : Dialogue V α → (α → Dialogue V β) → Dialogue V β
  | done value, next => next value
  | log event rest, next => log event (rest.bind next)
  | identify backend rest, next => identify backend fun identity => (rest identity).bind next
  | ask query rest, next => ask query fun answer => (rest answer).bind next

instance : Monad (Dialogue V) where
  pure := done
  bind := bind

def identityOf (backend : V.Backend) : Dialogue V Identity := identify backend done

def construct (constructor : V.Constructor) : Dialogue V V.Backend :=
  ask (.construct constructor) done

def call (backend : V.Backend) (question : Call V.State) : Dialogue V (question.Answer V) :=
  ask (.call backend question) done

def page (pager : V.Pager) (question : PagerCall) : Dialogue V question.Answer :=
  ask (.page pager question) done

/-- Releases pagers one after another, each with a word of it. -/
def releaseAll : List V.Pager → Dialogue V Unit
  | [] => done ()
  | pager :: rest => log .pagerReleased (ask (.release pager) fun _ => releaseAll rest)

def logAll : List Event → Dialogue V Unit
  | [] => done ()
  | event :: rest => log event (logAll rest)

def ofLogged (logged : Logged α) : Dialogue V α := do
  logAll logged.events
  return logged.value

/-- Carries a dialogue out. -/
def run (world : World V σ) : Dialogue V α → σ → Transcript V σ α
  | done value, state => ⟨value, state, [], []⟩
  | log event rest, state =>
    let later := rest.run world state
    { later with log := event :: later.log }
  | identify backend rest, state => (rest (world.identity backend state)).run world state
  | ask query rest, state =>
    let reply := world.answer query state
    let later := (rest reply.1.value).run world reply.2
    { later with
      log := reply.1.events ++ later.log
      exchanges := ⟨query, reply.1.value⟩ :: later.exchanges }

theorem bind_done (d : Dialogue V α) : d.bind done = d := by
  induction d with
  | done value => rfl
  | log event rest ih => rw [bind, ih]
  | identify backend rest ih => simp only [bind, ih]
  | ask query rest ih => simp only [bind, ih]

theorem bind_bind {γ : Type} (d : Dialogue V α) (f : α → Dialogue V β) (g : β → Dialogue V γ) :
    (d.bind f).bind g = d.bind fun value => (f value).bind g := by
  induction d with
  | done value => rfl
  | log event rest ih => simp only [bind, ih]
  | identify backend rest ih => simp only [bind, ih]
  | ask query rest ih => simp only [bind, ih]

instance : LawfulMonad (Dialogue V) :=
  LawfulMonad.mk' _ bind_done (fun _ _ => rfl) bind_bind

/-- A dialogue goes on in the state that its first part leaves, and its transcript is
that of the first part followed by that of the rest. -/
theorem run_bind (world : World V σ) (d : Dialogue V α) (next : α → Dialogue V β) (state : σ) :
    (d.bind next).run world state =
      let first := d.run world state
      let rest := (next first.value).run world first.state
      { rest with
        log := first.log ++ rest.log
        exchanges := first.exchanges ++ rest.exchanges } := by
  induction d generalizing state with
  | done value => rfl
  | log event rest ih => simp only [bind, run, ih]; rfl
  | identify backend rest ih => simp only [bind, run, ih]
  | ask query rest ih => simp only [bind, run, ih, List.append_assoc]; rfl

end Dialogue
end AssetBroker
