import AssetBroker.Manager
import AssetBroker.Proofs.Session
import AssetBroker.Rehearsal.Performance
import Mathlib.Logic.Relation

/-! Tokens for contexts. A token stands for the state of a context, and the empty one for having
none: neither is then a matter for the backend. With a backend that gives back the tokens it
restores states from, a token survives the way through a context, and a context keeps its token
on the way through that. -/
namespace AssetBroker

variable {V : Vendor} {σ : Type}

/-- A state of the world comes after another one if answers lead from this to that. -/
def World.Leads (world : World V σ) : σ → σ → Prop :=
  Relation.ReflTransGen fun before after => ∃ query, (world.answer query before).2 = after

/-- The world after a backend's answer to a question. -/
def World.next (world : World V σ) (backend : V.Backend) (question : Call V.State)
    (state : σ) : σ :=
  (world.answer (.call backend question) state).2

/-- What a dialogue leaves of the world comes after what it found. -/
theorem Dialogue.leads_run {α : Type} (world : World V σ) (d : Dialogue V α) (state : σ) :
    world.Leads state (d.run world state).state := by
  induction d generalizing state with
  | done value => exact .refl
  | log event rest ih => exact ih state
  | identify backend rest ih => exact ih _ state
  | ask query rest ih => exact .head ⟨query, rfl⟩ (ih _ _)

/-- A backend that gives, for a state that it restored from a token, this token ever after. -/
def World.RestoresTokens (world : World V σ) (backend : V.Backend) : Prop :=
  ∀ token kept before, world.reply backend (.stateFromToken token) before = .ok kept →
    ∀ later, world.Leads (world.next backend (.stateFromToken token) before) later →
      world.reply backend (.persistenceToken kept) later = .ok token

/-- A backend that gives no state the token of having none. -/
def World.NeverIssuesEmpty (world : World V σ) (backend : V.Backend) : Prop :=
  ∀ kept state, world.reply backend (.persistenceToken kept) state ≠ .ok ""

namespace Manager

section

variable (m : Manager V) (world : World V σ) (state : σ)

/-- A context without a state has the empty token, and nobody is asked. -/
theorem run_persistenceToken_of_none {context : Context V.State} (bare : context.state = none) :
    (m.persistenceToken context).run world state = ⟨.ok "", state, [], []⟩ := by
  rw [persistenceToken, bare]
  rfl

theorem asked_persistenceToken {context : Context V.State} {kept : V.State}
    (holds : context.state = some kept) :
    let told := (m.persistenceToken context).run world state
    told.value = world.reply m.backend (.persistenceToken kept) state ∧
    told.exchanges = [⟨.call m.backend (.persistenceToken kept), told.value⟩] := by
  intro told
  simp only [told, persistenceToken, holds]
  exact ⟨rfl, rfl⟩

/-- The empty token stands for no state, and nobody is asked. -/
theorem run_contextFromToken_empty :
    (m.contextFromToken "").run world state = ⟨.ok {}, state, [], []⟩ := rfl

theorem asked_contextFromToken {token : String} (given : token ≠ "") :
    let restored := (m.contextFromToken token).run world state
    let answer : Except Error V.State := world.reply m.backend (.stateFromToken token) state
    restored.value = answer.map (fun kept => { state := some kept }) ∧
    restored.exchanges = [⟨.call m.backend (.stateFromToken token), answer⟩] ∧
    restored.state = world.next m.backend (.stateFromToken token) state := by
  intro restored answer
  have nonempty : token.isEmpty = false := by simpa using given
  simp only [restored, contextFromToken, nonempty]
  exact ⟨rfl, rfl, rfl⟩

theorem value_contextFromToken_eq_error_iff {token : String} (given : token ≠ "")
    (fault : Error) :
    ((m.contextFromToken token).run world state).value = .error fault ↔
      world.reply m.backend (.stateFromToken token) state = (.error fault : Except _ V.State) := by
  rw [(m.asked_contextFromToken world state given).1]
  cases (world.reply m.backend (.stateFromToken token) state : Except Error V.State) with
  | error held => exact ⟨fun same => by cases same; rfl, fun same => by cases same; rfl⟩
  | ok kept => exact ⟨nofun, nofun⟩

/-- A context comes from a token with no locale and, unless the token is empty, with the state
that the backend restores. -/
theorem restored_of_value {token : String} {context : Context V.State}
    (made : ((m.contextFromToken token).run world state).value = .ok context) :
    context.locale = .empty ∧
      (token = "" ∧ context.state = none ∨
        token ≠ "" ∧ ∃ kept, context.state = some kept ∧
          world.reply m.backend (.stateFromToken token) state =
            (.ok kept : Except Error V.State)) := by
  by_cases empty : token = ""
  · subst empty
    cases made
    exact ⟨rfl, .inl ⟨rfl, rfl⟩⟩
  · rw [(m.asked_contextFromToken world state empty).1] at made
    cases answer : (world.reply m.backend (.stateFromToken token) state : Except Error V.State) with
    | error fault =>
      rw [answer] at made
      cases made
    | ok kept =>
      rw [answer] at made
      cases made
      exact ⟨rfl, .inr ⟨empty, kept, rfl, rfl⟩⟩

end

/-- A context that was restored from a token has this token ever after. -/
theorem persistenceToken_of_restored {m : Manager V} {world : World V σ}
    (restores : world.RestoresTokens m.backend) {token : String} {context : Context V.State}
    {before later : σ}
    (made : ((m.contextFromToken token).run world before).value = .ok context)
    (leads : world.Leads ((m.contextFromToken token).run world before).state later) :
    ((m.persistenceToken context).run world later).value = .ok token := by
  obtain ⟨-, ⟨rfl, bare⟩ | ⟨given, kept, holds, answer⟩⟩ := restored_of_value m world before made
  · rw [run_persistenceToken_of_none m world later bare]
  · rw [(m.asked_contextFromToken world before given).2.2] at leads
    rw [(m.asked_persistenceToken world later holds).1]
    exact restores token kept before answer later leads

/-- With a backend that restores tokens, a token that a context can be had for is the token of
that context ever after; and the context that can be had for the token of another has that same
token, and a state just if the other has one, unless the backend gives states the token of
having none. The backend is asked once where there is a state or a token, and is not asked
otherwise; its errors come back unchanged. -/
theorem tokens_and_contexts_restore_each_other (m : Manager V) (world : World V σ)
    (restores : world.RestoresTokens m.backend) :
    (∀ token context before,
      let restored := (m.contextFromToken token).run world before
      restored.value = .ok context →
        (∀ later, world.Leads restored.state later →
          ((m.persistenceToken context).run world later).value = .ok token) ∧
        context.locale = .empty ∧ (context.state.isSome = true ↔ token ≠ "")) ∧
    (∀ (context : Context V.State) token context' before between,
      let restored := (m.contextFromToken token).run world between
      ((m.persistenceToken context).run world before).value = .ok token →
      restored.value = .ok context' →
        (∀ later, world.Leads restored.state later →
          ((m.persistenceToken context').run world later).value = .ok token) ∧
        (world.NeverIssuesEmpty m.backend → context'.state.isSome = context.state.isSome)) ∧
    (∀ state, (m.contextFromToken "").run world state = ⟨.ok {}, state, [], []⟩) ∧
    (∀ (context : Context V.State) state, context.state = none →
      (m.persistenceToken context).run world state = ⟨.ok "", state, [], []⟩) ∧
    (∀ token state, token ≠ "" →
      let restored := (m.contextFromToken token).run world state
      let answer : Except Error V.State := world.reply m.backend (.stateFromToken token) state
      restored.exchanges = [⟨.call m.backend (.stateFromToken token), answer⟩] ∧
      ∀ fault, restored.value = .error fault ↔ answer = .error fault) ∧
    ∀ (context : Context V.State) kept state, context.state = some kept →
      let told := (m.persistenceToken context).run world state
      let answer : Except Error String := world.reply m.backend (.persistenceToken kept) state
      told.exchanges = [⟨.call m.backend (.persistenceToken kept), answer⟩] ∧
      told.value = answer := by
  refine ⟨?through_context, ?through_token, ?empty, ?bare, ?given, ?kept⟩
  case through_context =>
    intro token context before restored made
    obtain ⟨locale, origin⟩ := restored_of_value m world before made
    refine ⟨fun later leads => persistenceToken_of_restored restores made leads, locale, ?_⟩
    obtain ⟨rfl, bare⟩ | ⟨given, kept, holds, -⟩ := origin
    · simp [bare]
    · simp [holds, given]
  case through_token =>
    intro context token context' before between restored told made
    refine ⟨fun later leads => persistenceToken_of_restored restores made leads, ?_⟩
    intro neverEmpty
    obtain ⟨-, ⟨rfl, bare'⟩ | ⟨given, kept', holds', -⟩⟩ :=
      restored_of_value m world between made
    · cases holds : context.state with
      | none => rw [bare']
      | some kept =>
        rw [(m.asked_persistenceToken world before holds).1] at told
        exact absurd told (neverEmpty kept before)
    · cases holds : context.state with
      | none =>
        rw [run_persistenceToken_of_none m world before holds] at told
        cases told
        exact absurd rfl given
      | some kept => rw [holds']; rfl
  case empty => exact m.run_contextFromToken_empty world
  case bare => exact fun context state bare => m.run_persistenceToken_of_none world state bare
  case given =>
    intro token state given restored answer
    exact ⟨(m.asked_contextFromToken world state given).2.1,
      m.value_contextFromToken_eq_error_iff world state given⟩
  case kept =>
    intro context kept state holds told answer
    obtain ⟨value, exchanges⟩ := m.asked_persistenceToken world state holds
    exact ⟨exchanges.trans (by rw [value]), value⟩

end Manager
end AssetBroker

namespace AssetBroker.Rehearsal

/-- The token of a state, if it was seen. -/
def seenToken (seen : List String) : State → Except Error String
  | .own id _ => if id ≠ "" ∧ id ∈ seen then .ok id else .error (.unhandled "unseen state")
  | .foreign => .error (.unhandled "foreign state")

/-- A manager that knows the states of the tokens it has seen, and no others. -/
def attentiveWorld : World vendor (List String × Stage) where
  identity := fun number (_, stage) => world.identity number stage
  answer
    | .call _ (.stateFromToken token), (seen, stage) =>
      if token = "" then (⟨.error (.inputValidation "Bad token: "), []⟩, seen, stage)
      else (⟨.ok (.own token none), []⟩, token :: seen, stage)
    | .call _ (.persistenceToken kept), (seen, stage) => (⟨seenToken seen kept, []⟩, seen, stage)
    | query, (seen, stage) =>
      let (reply, stage) := answer query stage
      (reply, seen, stage)

theorem attentiveWorld_restores (number : Nat) {token : String} (given : token ≠ "")
    (before : List String × Stage) :
    attentiveWorld.answer (.call number (.stateFromToken token)) before =
      (⟨.ok (.own token none), []⟩, token :: before.1, before.2) := if_neg given

theorem attentiveWorld_refuses (number : Nat) (before : List String × Stage) :
    attentiveWorld.answer (.call number (.stateFromToken "")) before =
      (⟨.error (.inputValidation "Bad token: "), []⟩, before) := rfl

theorem seen_answer (query : Query vendor) (before : List String × Stage) :
    before.1 ⊆ (attentiveWorld.answer query before).2.1 := by
  cases query with
  | call number question =>
    cases question with
    | stateFromToken token =>
      by_cases empty : token = ""
      · rw [empty, attentiveWorld_refuses]
        exact List.Subset.refl _
      · rw [attentiveWorld_restores number empty]
        exact List.subset_cons_self _ _
    | _ => exact List.Subset.refl _
  | _ => exact List.Subset.refl _

theorem seen_of_leads {before later : List String × Stage}
    (leads : attentiveWorld.Leads before later) : before.1 ⊆ later.1 := by
  induction leads with
  | refl => exact List.Subset.refl _
  | tail _ answered ih =>
    obtain ⟨query, rfl⟩ := answered
    exact List.Subset.trans ih (seen_answer query _)

theorem attentiveWorld_restoresTokens (number : Nat) : attentiveWorld.RestoresTokens number := by
  intro token kept before answer later leads
  by_cases empty : token = ""
  · rw [World.reply, empty, attentiveWorld_refuses] at answer
    cases answer
  · rw [World.reply, attentiveWorld_restores number empty] at answer
    cases answer
    rw [World.next, attentiveWorld_restores number empty] at leads
    have seen : token ∈ later.1 := seen_of_leads leads List.mem_cons_self
    exact if_pos ⟨empty, seen⟩

theorem attentiveWorld_neverIssuesEmpty (number : Nat) :
    attentiveWorld.NeverIssuesEmpty number := by
  intro kept state
  change seenToken state.1 kept ≠ .ok ""
  unfold seenToken
  split
  · split
    · rename_i seen
      exact fun issued => seen.1 (Except.ok.inj issued)
    · exact nofun
  · exact nofun

end AssetBroker.Rehearsal

namespace AssetBroker.Manager

/-- A token outlives its context and what happens in between, with a backend that refuses the
token of a state as long as it has not seen it. -/
theorem seen_token_comes_back :
    let m : Manager Rehearsal.vendor := ⟨1, none⟩
    let world := Rehearsal.attentiveWorld
    let start : List String × Rehearsal.Stage := ([], Rehearsal.Stage.empty)
    let context : Context Rehearsal.State := { state := some (.own "ours" none) }
    let early := (m.persistenceToken context).run world start
    let restored := (m.contextFromToken "ours").run world start
    let later := (m.performAll [.contextFromToken "other", .flushCaches]).run world restored.state
    let again := (m.contextFromToken "ours").run world later.state
    early.value = .error (.unhandled "unseen state") ∧
    restored.value = .ok context ∧
    ((m.persistenceToken context).run world later.state).value = .ok "ours" ∧
    (∀ context', again.value = .ok context' → context'.state.isSome = true) ∧
    ((m.contextFromToken "").run world later.state).exchanges = [] := by
  intro m world start context early restored later again
  obtain ⟨throughContext, throughToken, silent, _, _, told⟩ :=
    tokens_and_contexts_restore_each_other m world (Rehearsal.attentiveWorld_restoresTokens 1)
  have made : restored.value = .ok context := rfl
  have leads : world.Leads restored.state later.state := Dialogue.leads_run world _ _
  have kept := (throughContext "ours" context start made).1 later.state leads
  refine ⟨(told context (.own "ours" none) start rfl).2, made, kept, ?_, by rw [silent]⟩
  intro context' made'
  exact (throughToken context "ours" context' later.state later.state kept made').2
    (Rehearsal.attentiveWorld_neverIssuesEmpty 1)

end AssetBroker.Manager
