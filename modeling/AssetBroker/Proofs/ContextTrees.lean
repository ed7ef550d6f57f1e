import AssetBroker.Proofs.ContextTokens

/-! Contexts that derive from one another. Whether a manager keeps states is asked of its
backend for each root, and never again for what derives from it: a child has a state just if its
parent has one. Both come to the same. Along every run all contexts hold states or none does,
and the states that they hold are, one for one, those that the backend was asked for. -/
namespace AssetBroker

/-- What a host may do with the contexts of a run. Each is known by its place in the order in
which they were made. -/
inductive ContextStep where
  | root
  | child (parent : Nat)
  | token (holder : Nat)
  /-- The host says anew where the calls of a context come from. -/
  | relocate (holder : Nat) (locale : TraitsData)

inductive ContextAnswer (State : Type) where
  | made (outcome : Except Error (Context State))
  | told (token : Except Error String)
  /-- There was nothing to answer, or no such context. -/
  | nothing

/-- A context with the place of the one it derives from. -/
structure ContextNode (State : Type) where
  parent? : Option Nat
  context : Context State

/-- The contexts of a run, in the order in which they were made. -/
abbrev ContextForest (State : Type) := List (ContextNode State)

namespace ContextForest

variable {State : Type}

/-- Only a context that was made is added. -/
def plant (forest : ContextForest State) (parent? : Option Nat) :
    Except Error (Context State) → ContextForest State
  | .ok context => forest ++ [⟨parent?, context⟩]
  | .error _ => forest

def relocate (forest : ContextForest State) (place : Nat) (locale : TraitsData) :
    ContextForest State :=
  forest.modify place fun node => { node with context := { node.context with locale } }

def stateAt (forest : ContextForest State) (place : Nat) : Option State :=
  (forest[place]?).bind fun node => node.context.state

/-- All contexts hold states or none does, and each derives from an earlier one if from any. -/
structure Rooted (stateful : Bool) (forest : ContextForest State) : Prop where
  states : ∀ node ∈ forest, node.context.state.isSome = stateful
  earlier : ∀ place (node : ContextNode State), forest[place]? = some node →
    ∀ parent, node.parent? = some parent → parent < place

variable {forest : ContextForest State}

theorem stateAt_append {place : Nat} (within : place < forest.length)
    (more : ContextForest State) : stateAt (forest ++ more) place = forest.stateAt place := by
  rw [stateAt, stateAt, List.getElem?_append_left within]

/-- What derives from a context that is there derives from an earlier one. -/
theorem parent_within {place : Nat} {parent : ContextNode State}
    (found : forest[place]? = some parent) :
    ∀ derived, some place = some derived → derived < forest.length := by
  rintro derived ⟨⟩
  exact (List.getElem?_eq_some_iff.mp found).1

theorem getElem?_relocate (place : Nat) (locale : TraitsData) (other : Nat) :
    (forest.relocate place locale)[other]? = (forest[other]?).map fun node =>
      if place = other then { node with context := { node.context with locale } } else node := by
  rw [relocate, List.getElem?_modify]
  by_cases same : place = other
  · simp [same]
  · simp [same]

theorem stateAt_relocate (place : Nat) (locale : TraitsData) (other : Nat) :
    (forest.relocate place locale).stateAt other = forest.stateAt other := by
  rw [stateAt, stateAt, getElem?_relocate]
  cases forest[other]? with
  | none => rfl
  | some node =>
    change (if place = other then _ else node).context.state = _
    split
    · rfl
    · rfl

namespace Rooted

variable {stateful : Bool}

theorem nil : Rooted stateful ([] : ContextForest State) where
  states := nofun
  earlier := nofun

theorem state_cases (rooted : Rooted stateful forest) {place : Nat} {node : ContextNode State}
    (found : forest[place]? = some node) :
    stateful = false ∧ node.context.state = none ∨
      stateful = true ∧ ∃ held, node.context.state = some held := by
  have same := rooted.states node (List.mem_of_getElem? found)
  cases holds : node.context.state with
  | none => exact .inl ⟨by rw [← same, holds]; rfl, rfl⟩
  | some held => exact .inr ⟨by rw [← same, holds]; rfl, held, rfl⟩

theorem plant (rooted : Rooted stateful forest) {node : ContextNode State}
    (state : node.context.state.isSome = stateful)
    (derives : ∀ place, node.parent? = some place → place < forest.length) :
    Rooted stateful (forest ++ [node]) where
  states other member := by
    rcases List.mem_append.mp member with old | new
    · exact rooted.states other old
    · rw [List.mem_singleton.mp new, state]
  earlier place other found parent derived := by
    rcases Nat.lt_or_ge place forest.length with within | beyond
    · rw [List.getElem?_append_left within] at found
      exact rooted.earlier place other found parent derived
    · rw [List.getElem?_append_right beyond, List.getElem?_singleton] at found
      split at found
      · cases found
        exact Nat.lt_of_lt_of_le (derives parent derived) beyond
      · cases found

theorem relocate (rooted : Rooted stateful forest) (place : Nat) (locale : TraitsData) :
    Rooted stateful (forest.relocate place locale) where
  states node member := by
    obtain ⟨other, found⟩ := List.getElem?_of_mem member
    rw [getElem?_relocate, Option.map_eq_some_iff] at found
    obtain ⟨old, found, rfl⟩ := found
    have state := rooted.states old (List.mem_of_getElem? found)
    split
    · exact state
    · exact state
  earlier other node found parent derived := by
    rw [getElem?_relocate, Option.map_eq_some_iff] at found
    obtain ⟨old, found, rfl⟩ := found
    refine rooted.earlier other old found parent ?_
    split at derived
    · exact derived
    · exact derived

end Rooted
end ContextForest

variable {V : Vendor} {σ : Type}

namespace Manager

/-- One step: what is answered, and the contexts that there are after it. -/
def tend (m : Manager V) (forest : ContextForest V.State) :
    ContextStep → Dialogue V (ContextAnswer V.State × ContextForest V.State)
  | .root => do
    let made ← m.createContext
    return (.made made, forest.plant none made)
  | .child place => match forest[place]? with
    | some parent => do
      let made ← m.createChildContext parent.context
      return (.made made, forest.plant (some place) made)
    | none => return (.nothing, forest)
  | .token place => match forest[place]? with
    | some holder => do
      let told ← m.persistenceToken holder.context
      return (.told told, forest)
    | none => return (.nothing, forest)
  | .relocate place locale => return (.nothing, forest.relocate place locale)

/-- The contexts after a run of steps. -/
def tendAll (m : Manager V) (forest : ContextForest V.State) (steps : List ContextStep) :
    Dialogue V (ContextForest V.State) :=
  steps.foldlM (fun forest step => do return (← m.tend forest step).2) forest

end Manager

/-- A backend that gives one answer whenever it is asked for a capability. -/
def World.Fixes (world : World V σ) (backend : V.Backend) (capability : Capability)
    (held : Bool) : Prop :=
  ∀ state, world.reply backend (.hasCapability capability) state = held

/-- A backend is asked for a state, for one derived from another, or between a state and its
token. -/
def Query.concernsState : Query V → Bool
  | .call _ .createState | .call _ (.createChildState _) | .call _ (.persistenceToken _)
  | .call _ (.stateFromToken _) => true
  | _ => false

/-- The state that a backend made for a context, if it was asked for one and made it. -/
def Exchange.made? : Exchange V → Option V.State
  | ⟨.call _ .createState, (answer : Except Error V.State)⟩ => answer.toOption
  | ⟨.call _ (.createChildState _), (answer : Except Error V.State)⟩ => answer.toOption
  | _ => none

/-- The ways that a step can go with a backend of which it is known whether it keeps states:
what passes between manager and backend, what is answered, and the contexts after it. -/
inductive Tending (backend : V.Backend) (forest : ContextForest V.State) :
    Bool → ContextStep → List (Exchange V) → ContextAnswer V.State → ContextForest V.State → Prop
  | root (state : V.State) :
      Tending backend forest true .root
        [⟨.call backend (.hasCapability .statefulContexts), true⟩,
          ⟨.call backend .createState, (.ok state : Except Error V.State)⟩]
        (.made (.ok { state := some state })) (forest ++ [⟨none, { state := some state }⟩])
  | root_refused (fault : Error) :
      Tending backend forest true .root
        [⟨.call backend (.hasCapability .statefulContexts), true⟩,
          ⟨.call backend .createState, (.error fault : Except Error V.State)⟩]
        (.made (.error fault)) forest
  | stateless_root :
      Tending backend forest false .root
        [⟨.call backend (.hasCapability .statefulContexts), false⟩]
        (.made (.ok {})) (forest ++ [⟨none, {}⟩])
  | child {place : Nat} {parent : ContextNode V.State} {held : V.State}
      (found : forest[place]? = some parent) (holds : parent.context.state = some held)
      (state : V.State) :
      Tending backend forest true (.child place)
        [⟨.call backend (.createChildState held), (.ok state : Except Error V.State)⟩]
        (.made (.ok ⟨parent.context.locale, some state⟩))
        (forest ++ [⟨some place, ⟨parent.context.locale, some state⟩⟩])
  | child_refused {place : Nat} {parent : ContextNode V.State} {held : V.State}
      (found : forest[place]? = some parent) (holds : parent.context.state = some held)
      (fault : Error) :
      Tending backend forest true (.child place)
        [⟨.call backend (.createChildState held), (.error fault : Except Error V.State)⟩]
        (.made (.error fault)) forest
  | stateless_child {place : Nat} {parent : ContextNode V.State}
      (found : forest[place]? = some parent) :
      Tending backend forest false (.child place) []
        (.made (.ok ⟨parent.context.locale, none⟩))
        (forest ++ [⟨some place, ⟨parent.context.locale, none⟩⟩])
  | token {place : Nat} {holder : ContextNode V.State} {held : V.State}
      (found : forest[place]? = some holder) (holds : holder.context.state = some held)
      (token : Except Error String) :
      Tending backend forest true (.token place)
        [⟨.call backend (.persistenceToken held), token⟩] (.told token) forest
  | empty_token {place : Nat} {holder : ContextNode V.State}
      (found : forest[place]? = some holder) :
      Tending backend forest false (.token place) [] (.told (.ok "")) forest
  | relocation (stateful : Bool) (place : Nat) (locale : TraitsData) :
      Tending backend forest stateful (.relocate place locale) [] .nothing
        (forest.relocate place locale)
  /-- Nothing derives from a context that is not there. -/
  | absent_parent (stateful : Bool) {place : Nat} (absent : forest[place]? = none) :
      Tending backend forest stateful (.child place) [] .nothing forest
  | absent_holder (stateful : Bool) {place : Nat} (absent : forest[place]? = none) :
      Tending backend forest stateful (.token place) [] .nothing forest

/-- The calls by which states were made. -/
def statesMade (exchanges : List (Exchange V)) : List (Exchange V) :=
  exchanges.filter fun exchange => (Exchange.made? exchange).isSome

theorem statesMade_append (first rest : List (Exchange V)) :
    statesMade (first ++ rest) = statesMade first ++ statesMade rest := List.filter_append ..

/-- What passes when a backend makes a state, one derived from another if that is given. -/
def stateMade (backend : V.Backend) (derivedFrom : Option V.State) (made : V.State) : Exchange V :=
  match derivedFrom with
  | none => ⟨.call backend .createState, (.ok made : Except Error V.State)⟩
  | some held => ⟨.call backend (.createChildState held), (.ok made : Except Error V.State)⟩

namespace ContextForest

/-- Where the state of a context comes from: for a root from a call for a state, otherwise from
a call that derives it from the state of the direct parent. -/
def origin? (forest : ContextForest V.State) (backend : V.Backend)
    (node : ContextNode V.State) : Option (Exchange V) :=
  node.context.state.bind fun state => match node.parent? with
    | none => some (stateMade backend none state)
    | some place => (forest.stateAt place).map fun held => stateMade backend (some held) state

def origins (forest : ContextForest V.State) (backend : V.Backend) : List (Option (Exchange V)) :=
  forest.map (forest.origin? backend)

variable {forest : ContextForest V.State} {stateful : Bool} {backend : V.Backend}

theorem origin?_congr {other : ContextForest V.State} {node : ContextNode V.State}
    (same : ∀ place, node.parent? = some place → other.stateAt place = forest.stateAt place) :
    other.origin? backend node = forest.origin? backend node := by
  unfold origin?
  cases derived : node.parent? with
  | none => rfl
  | some place => simp only [same place derived]

theorem Rooted.origins_plant (rooted : Rooted stateful forest) (node : ContextNode V.State)
    (derives : ∀ place, node.parent? = some place → place < forest.length) :
    origins (forest ++ [node]) backend =
      forest.origins backend ++ [forest.origin? backend node] := by
  have new : origin? (forest ++ [node]) backend node = forest.origin? backend node :=
    origin?_congr fun place derived => stateAt_append (derives place derived) _
  have old : forest.map (origin? (forest ++ [node]) backend) = forest.origins backend := by
    refine List.map_congr_left fun other member => origin?_congr fun place derived => ?_
    obtain ⟨index, found⟩ := List.getElem?_of_mem member
    have within : index < forest.length := (List.getElem?_eq_some_iff.mp found).1
    have earlier := rooted.earlier index other found place derived
    exact stateAt_append (Nat.lt_trans earlier within) _
  rw [origins, List.map_append, old, List.map_singleton, new]

theorem origins_relocate (place : Nat) (locale : TraitsData) :
    (forest.relocate place locale).origins backend = forest.origins backend := by
  have same (node : ContextNode V.State) :
      (forest.relocate place locale).origin? backend node = forest.origin? backend node :=
    origin?_congr fun other _ => stateAt_relocate place locale other
  refine List.ext_getElem? fun other => ?_
  rw [origins, origins, List.getElem?_map, List.getElem?_map, getElem?_relocate, Option.map_map]
  refine congrArg (forest[other]?.map ·) (funext fun node => ?_)
  rw [Function.comp_apply, same]
  split
  · rfl
  · rfl

end ContextForest

namespace Manager

section Calls

variable (m : Manager V) (world : World V σ)

theorem asked_hasCapability {capability : Capability} {held : Bool}
    (fixed : world.Fixes m.backend capability held) (state : σ) :
    let told := (m.hasCapability capability).run world state
    told.value = held ∧
    told.exchanges = [⟨.call m.backend (.hasCapability capability), held⟩] := by
  intro told
  have said : told.value = held := fixed state
  have asked : told.exchanges = [⟨.call m.backend (.hasCapability capability), told.value⟩] := rfl
  exact ⟨said, asked.trans (by rw [said])⟩

theorem createContext_of_stateless (fixed : world.Fixes m.backend .statefulContexts false)
    (state : σ) :
    let made := m.createContext.run world state
    made.value = .ok {} ∧
    made.exchanges = [⟨.call m.backend (.hasCapability .statefulContexts), false⟩] := by
  intro made
  obtain ⟨said, asked⟩ := m.asked_hasCapability world fixed state
  constructor
  · simp only [made, createContext, Dialogue.value_bind, said]
    rfl
  · simp only [made, createContext, Dialogue.exchanges_bind, asked, said]
    rfl

theorem createContext_of_stateful (fixed : world.Fixes m.backend .statefulContexts true)
    (state : σ) :
    let made := m.createContext.run world state
    ∃ answer : Except Error V.State,
      made.value = answer.map (fun state => { state := some state }) ∧
      made.exchanges = [⟨.call m.backend (.hasCapability .statefulContexts), true⟩,
        ⟨.call m.backend .createState, answer⟩] := by
  intro made
  obtain ⟨said, asked⟩ := m.asked_hasCapability world fixed state
  refine ⟨world.reply m.backend .createState
    (world.next m.backend (.hasCapability .statefulContexts) state), ?_, ?_⟩
  · simp only [made, createContext, Dialogue.value_bind, said]
    rfl
  · simp only [made, createContext, Dialogue.exchanges_bind, asked, said]
    rfl

theorem createChildContext_of_none {parent : Context V.State} (bare : parent.state = none)
    (state : σ) :
    (m.createChildContext parent).run world state =
      ⟨.ok { locale := parent.locale }, state, [], []⟩ := by
  rw [createChildContext, bare]
  rfl

theorem createChildContext_of_some {parent : Context V.State} {held : V.State}
    (holds : parent.state = some held) (state : σ) :
    let made := (m.createChildContext parent).run world state
    ∃ answer : Except Error V.State,
      made.value = answer.map (fun state => { locale := parent.locale, state := some state }) ∧
      made.exchanges = [⟨.call m.backend (.createChildState held), answer⟩] := by
  intro made
  refine ⟨world.reply m.backend (.createChildState held) state, ?_, ?_⟩
  · simp only [made, createChildContext, holds]
    rfl
  · simp only [made, createChildContext, holds]
    rfl

end Calls

variable {m : Manager V} {world : World V σ} {stateful : Bool} {forest : ContextForest V.State}

/-- As long as the contexts have states just if the backend keeps them, every step goes one of
the ways for such a backend. -/
theorem tend_course (fixed : world.Fixes m.backend .statefulContexts stateful)
    (rooted : forest.Rooted stateful) (step : ContextStep) (state : σ) :
    let taken := (m.tend forest step).run world state
    Tending m.backend forest stateful step taken.exchanges taken.value.1 taken.value.2 := by
  intro taken
  cases step with
  | root =>
    cases stateful with
    | false =>
      obtain ⟨value, exchanges⟩ := createContext_of_stateless m world fixed state
      simp only [taken, tend, Dialogue.value_bind, Dialogue.exchanges_bind, value, exchanges,
        Dialogue.run_pure, List.append_nil]
      exact .stateless_root
    | true =>
      obtain ⟨answer, value, exchanges⟩ := createContext_of_stateful m world fixed state
      simp only [taken, tend, Dialogue.value_bind, Dialogue.exchanges_bind, value, exchanges,
        Dialogue.run_pure, List.append_nil]
      cases answer with
      | error fault => exact .root_refused fault
      | ok made => exact .root made
  | child place =>
    cases found : forest[place]? with
    | none =>
      simp only [taken, tend, found, Dialogue.run_pure]
      exact .absent_parent stateful found
    | some parent =>
      obtain ⟨rfl, bare⟩ | ⟨rfl, held, holds⟩ := rooted.state_cases found
      · simp only [taken, tend, found, Dialogue.value_bind, Dialogue.exchanges_bind,
          createChildContext_of_none m world bare, Dialogue.run_pure, List.append_nil]
        exact .stateless_child found
      · obtain ⟨answer, value, exchanges⟩ := createChildContext_of_some m world holds state
        simp only [taken, tend, found, Dialogue.value_bind, Dialogue.exchanges_bind, value,
          exchanges, Dialogue.run_pure, List.append_nil]
        cases answer with
        | error fault => exact .child_refused found holds fault
        | ok made => exact .child found holds made
  | token place =>
    cases found : forest[place]? with
    | none =>
      simp only [taken, tend, found, Dialogue.run_pure]
      exact .absent_holder stateful found
    | some holder =>
      obtain ⟨rfl, bare⟩ | ⟨rfl, held, holds⟩ := rooted.state_cases found
      · simp only [taken, tend, found, Dialogue.value_bind, Dialogue.exchanges_bind,
          m.run_persistenceToken_of_none world _ bare, Dialogue.run_pure, List.append_nil]
        exact .empty_token found
      · obtain ⟨value, exchanges⟩ := m.asked_persistenceToken world state holds
        simp only [taken, tend, found, Dialogue.value_bind, Dialogue.exchanges_bind, exchanges,
          Dialogue.run_pure, List.append_nil]
        exact .token found holds _
  | relocate place locale => exact .relocation stateful place locale

end Manager

namespace Tending

variable {backend : V.Backend} {forest after : ContextForest V.State} {stateful : Bool}
  {step : ContextStep} {exchanges : List (Exchange V)} {answer : ContextAnswer V.State}

theorem rooted (course : Tending backend forest stateful step exchanges answer after)
    (rooted : forest.Rooted stateful) : after.Rooted stateful := by
  cases course with
  | root | stateless_root => exact rooted.plant rfl nofun
  | child found | stateless_child found =>
    exact rooted.plant rfl (ContextForest.parent_within found)
  | relocation _ place locale => exact rooted.relocate place locale
  | _ => exact rooted

/-- A backend without states is not asked about any. -/
theorem silent (course : Tending backend forest false step exchanges answer after) :
    ∀ exchange ∈ exchanges, exchange.1.concernsState = false := by
  cases course with
  | stateless_root =>
    intro exchange member
    rw [List.mem_singleton.mp member]
    rfl
  | _ => exact List.forall_mem_nil _

/-- The states that a step adds to those of the contexts are those that it has made. -/
theorem origins (course : Tending backend forest true step exchanges answer after)
    (rooted : forest.Rooted true) :
    after.origins backend = forest.origins backend ++
      (statesMade exchanges).map some := by
  cases course with
  | root state =>
    rw [rooted.origins_plant ⟨none, _⟩ nofun]
    rfl
  | @child place parent held found holds state =>
    have stands : forest.stateAt place = some held := by
      rw [ContextForest.stateAt, found]
      exact holds
    rw [rooted.origins_plant ⟨some place, _⟩ (ContextForest.parent_within found),
      ContextForest.origin?]
    simp only [Option.bind_some, stands, Option.map_some]
    rfl
  | relocation _ place locale =>
    rw [ContextForest.origins_relocate]
    exact (List.append_nil _).symm
  | _ => exact (List.append_nil _).symm

end Tending

namespace Manager

variable (m : Manager V) (world : World V σ) {stateful : Bool} {forest : ContextForest V.State}

theorem tendAll_cons (step : ContextStep) (rest : List ContextStep) :
    m.tendAll forest (step :: rest) =
      m.tend forest step >>= fun taken => m.tendAll taken.2 rest := by
  rw [tendAll, List.foldlM_cons, bind_assoc]
  rfl

theorem tendAll_course (fixed : world.Fixes m.backend .statefulContexts stateful)
    (rooted : forest.Rooted stateful) (steps : List ContextStep) (state : σ) :
    let reached := (m.tendAll forest steps).run world state
    reached.value.Rooted stateful ∧
    (stateful = false → ∀ exchange ∈ reached.exchanges, exchange.1.concernsState = false) ∧
    (stateful = true → reached.value.origins m.backend =
      forest.origins m.backend ++ (statesMade reached.exchanges).map some) := by
  induction steps generalizing forest state with
  | nil => exact ⟨rooted, fun _ => List.forall_mem_nil _, fun _ => (List.append_nil _).symm⟩
  | cons step rest ih =>
    intro reached
    have course := tend_course fixed rooted step state
    obtain ⟨rooted', silent, origins⟩ := ih (course.rooted rooted)
      ((m.tend forest step).run world state).state
    simp only [reached, tendAll_cons, Dialogue.value_bind, Dialogue.exchanges_bind]
    refine ⟨rooted', ?_, ?_⟩
    · rintro rfl exchange member
      rcases List.mem_append.mp member with now | later
      · exact course.silent exchange now
      · exact silent rfl exchange later
    · rintro rfl
      rw [origins rfl, course.origins rooted, statesMade_append, List.map_append,
        List.append_assoc]

/-- A run of any length and branching, with a backend that either keeps states or does not. If
it does not, no context has a state, every token is empty and the backend is never asked about
states. If it does, every context has one, and these are in order the states that the backend
was asked for: each root's comes from one call, each child's from one that derives it from its
direct parent's. Every further step goes one of the ways for such a backend, by which a child is
of its parent's locale, and an error of the backend leaves the contexts as they are. -/
theorem contexts_inherit_statefulness (stateful : Bool)
    (fixed : world.Fixes m.backend .statefulContexts stateful) (steps : List ContextStep)
    (state : σ) :
    let reached := (m.tendAll [] steps).run world state
    let forest := reached.value
    (∀ node ∈ forest, node.context.state.isSome = stateful) ∧
    (∀ place (node : ContextNode V.State), forest[place]? = some node →
      ∀ parent, node.parent? = some parent → parent < place) ∧
    (stateful = false →
      (∀ exchange ∈ reached.exchanges, exchange.1.concernsState = false) ∧
      ∀ node ∈ forest, ∀ later, (m.persistenceToken node.context).run world later =
        ⟨.ok "", later, [], []⟩) ∧
    (stateful = true →
      forest.map (forest.origin? m.backend) = (statesMade reached.exchanges).map some) ∧
    ∀ step later,
      let taken := (m.tend forest step).run world later
      Tending m.backend forest stateful step taken.exchanges taken.value.1 taken.value.2 := by
  intro reached forest
  obtain ⟨rooted, silent, origins⟩ :=
    m.tendAll_course world fixed ContextForest.Rooted.nil steps state
  refine ⟨rooted.states, rooted.earlier, ?_, origins, tend_course fixed rooted⟩
  rintro rfl
  refine ⟨silent rfl, fun node member later => ?_⟩
  have bare : node.context.state = none := by simpa using rooted.states node member
  exact m.run_persistenceToken_of_none world later bare

end Manager
end AssetBroker

namespace AssetBroker.Rehearsal

/-- A manager of which it is given whether its backends keep states. -/
def constantWorld (stateful : Bool) : World vendor Stage where
  identity := world.identity
  answer
    | .call _ (.hasCapability .statefulContexts), stage => (⟨stateful, []⟩, stage)
    | query, stage => answer query stage

/-- A stage on which the first call that can fail does so. -/
def stumblingStage : Stage :=
  { Stage.empty with script := { Script.empty with failure := some (pure (.unhandled "down")) } }

end AssetBroker.Rehearsal

namespace AssetBroker.Manager

/-- The first root fails, so that all derive from the second, down to a grandchild, whose locale
is that of its parent and not that of the root. Without states the same run makes a root more. -/
theorem grandchild_has_state_of_its_parent :
    let m : Manager Rehearsal.vendor := ⟨1, none⟩
    let shot := TraitsData.ofTraits ["shot"]
    let steps : List ContextStep := [.root, .root, .relocate 0 shot, .child 0,
      .relocate 0 .empty, .child 1]
    let run := fun stateful =>
      (m.tendAll [] steps).run (Rehearsal.constantWorld stateful) Rehearsal.stumblingStage
    (run true).value = [⟨none, .empty, some (.own "s1" none)⟩,
      ⟨some 0, shot, some (.own "s2" (some "s1"))⟩,
      ⟨some 1, shot, some (.own "s3" (some "s2"))⟩] ∧
    (run true).value.map ((run true).value.origin? 1) =
      (statesMade (run true).exchanges).map some ∧
    (run false).value = [⟨none, .empty, none⟩, ⟨none, .empty, none⟩,
      ⟨some 0, shot, none⟩, ⟨some 1, .empty, none⟩] ∧
    ∀ exchange ∈ (run false).exchanges, exchange.1.concernsState = false := by
  -- The values are computed, for which the manager has to be in sight.
  refine ⟨rfl, ?_, rfl, ?_⟩
  · obtain ⟨_, _, _, origins, _⟩ := contexts_inherit_statefulness _
      (Rehearsal.constantWorld true) true (fun _ => rfl) _ Rehearsal.stumblingStage
    exact origins rfl
  · obtain ⟨_, _, stateless, _⟩ := contexts_inherit_statefulness _
      (Rehearsal.constantWorld false) false (fun _ => rfl) _ Rehearsal.stumblingStage
    exact (stateless rfl).1

end AssetBroker.Manager
