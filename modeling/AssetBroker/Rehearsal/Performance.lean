import AssetBroker.Rehearsal.Script

/-! How the rehearsed manager answers. -/
namespace AssetBroker.Rehearsal

/-- Three made-up children of a reference, in pages. -/
def childPages (reference : EntityReference) (pageSize : Nat) : PagerPlan :=
  let children : List EntityReference :=
    (List.range 3).map fun n => ⟨reference.text ++ "/child" ++ toString n⟩
  let pages := (List.range 3).map fun n => (children.drop (n * pageSize)).take pageSize
  ⟨pages.filter fun page => !page.isEmpty, none⟩

def extended (reference : EntityReference) (ending : String) : EntityReference :=
  ⟨reference.text ++ ending⟩

/-- The payloads for a batch that nothing is scripted for. -/
def payloads (profile : Profile) : {op : Operation} → Request op → List (op.Payload PagerPlan)
  | _, .entityExists references => references.map fun _ => true
  | _, .entityTraits references _ => references.map fun _ => NameSet.ofList ["mock"]
  | _, .resolve references _ _ => references.map fun reference =>
    TraitsData.empty.setProperty "mock" "reference" (.text reference.text)
  | _, .defaultEntityReference traitSets _ => traitSets.map fun traits =>
    if traits.isEmpty then none else some ⟨profile.scheme ++ "default"⟩
  | _, .getWithRelationship references _ query => references.map fun reference =>
    childPages reference query.pageSize
  | _, .getWithRelationships reference relationships query => relationships.map fun _ =>
    childPages reference query.pageSize
  | _, .preflight references _ _ => references.map fun reference => extended reference "?working"
  | _, .register references _ _ => references.map fun reference => extended reference "?v=1"

/-- Reports on every element, in order. -/
def replies (profile : Profile) {op : Operation} (request : Request op) : Replies op :=
  (payloads profile request).zipIdx.map fun (payload, index) => pure ⟨index, .ok payload⟩

/-- Makes the pager that a payload plans. -/
def furnish (stage : Stage) : (op : Operation) → op.Payload PagerPlan → op.Payload Nat × Stage
  | .getWithRelationship, plan | .getWithRelationships, plan => stage.addPager plan
  | .entityExists, payload | .entityTraits, payload | .resolve, payload
  | .defaultEntityReference, payload | .preflight, payload | .register, payload =>
    (payload, stage)

/-- Makes the reports in order, each pager when its turn comes. -/
def report (stage : Stage) (op : Operation) :
    Replies op → List (Logged (Report (op.Payload Nat))) × Stage
  | [] => ([], stage)
  | ⟨⟨index, outcome⟩, events⟩ :: rest =>
    let (outcome, stage) : Outcome (op.Payload Nat) × Stage := match outcome with
      | .ok payload =>
        let (payload, stage) := furnish stage op payload
        (.ok payload, stage)
      | .error error => (.error error, stage)
    let (reports, stage) := report stage op rest
    (⟨⟨index, outcome⟩, events⟩ :: reports, stage)

def performEntities (backend : Backend) {op : Operation} (request : Request op) (stage : Stage) :
    Run (op.Payload Nat) × Stage :=
  let script := (stage.script.repliesTo? op).getD (replies backend.profile request)
  let (reports, stage) := report stage op script
  let (ending, stage) := stage.failOr fun stage => (.ok (), stage)
  (⟨reports, ending⟩, stage)

def tokenStart : String := "token:"

/-- What follows the start of a token. -/
def tokenId? (token : String) : Option String :=
  if tokenStart.toList.isPrefixOf token.toList then
    some (String.ofList (token.toList.drop tokenStart.length))
  else none

/-- The backend's own answer to a call. -/
def perform (number : Nat) (backend : Backend) (stage : Stage) :
    (question : Call State) → Logged (question.Answer vendor) × Stage
  | .info => (⟨backend.profile.info, []⟩, stage)
  | .settings => stage.failOr fun stage => (.ok backend.settings, stage)
  | .setUp settings => stage.failOr fun stage =>
    (.ok (), stage.modifyBackend number fun backend => { backend with settings })
  | .hasCapability capability => (⟨backend.profile.capabilities.contains capability, []⟩, stage)
  | .updateTerminology terms => stage.failOr fun stage =>
    (.ok (terms.override backend.profile.terms), stage)
  | .flushCaches => stage.failOr fun stage => (.ok (), stage)
  | .managementPolicy traitSets _ _ => stage.failOr fun stage =>
    (.ok (stage.script.policies.getD (traitSets.map fun traits => .ofTraits traits.names)), stage)
  | .createState => stage.failOr fun stage =>
    let (state, stage) := stage.addState none
    (.ok state, stage)
  | .createChildState parent => stage.failOr fun stage =>
    let (state, stage) := stage.addState (match parent with
      | .own id _ => some id
      | .foreign => none)
    (.ok state, stage)
  | .persistenceToken state => stage.failOr fun stage =>
    (match state with
      | .own id _ => .ok (tokenStart ++ id)
      | .foreign => .error (.unhandled "foreign state"), stage)
  | .stateFromToken token => stage.failOr fun stage =>
    (match tokenId? token with
      | some id => .ok (.own id none)
      | none => .error (.inputValidation ("Bad token: " ++ token)), stage)
  | .isEntityReference text =>
    (⟨backend.profile.scheme.toList.isPrefixOf text.toList, []⟩, stage)
  | .entities request _ =>
    let (run, stage) := performEntities backend request stage
    (⟨run, []⟩, stage)

/-- A backend that leaves a method out gives the default answer, which no script
changes. -/
def answerCall (number : Nat) (backend : Backend) (stage : Stage) (question : Call State) :
    Logged (question.Answer vendor) × Stage :=
  match question.default? (V := vendor), backend.profile.leftOut.contains question.name with
  | some answer, true => (⟨answer, []⟩, stage)
  | _, _ => perform number backend stage question

def answerPage (number : Nat) (stage : Stage) (question : PagerCall) :
    Logged question.Answer × Stage :=
  let pager := (stage.pagers[number - 1]?).getD ⟨⟨[], none⟩, 0⟩
  let failure := (pager.plan.failure.filter fun failure => failure.1 == question).map Prod.snd
  match question, failure with
  | .hasNext, some ⟨fault, events⟩ | .get, some ⟨fault, events⟩ | .advance, some ⟨fault, events⟩ =>
    (⟨.error fault, events⟩, stage)
  | .hasNext, none =>
    (⟨.ok (decide (pager.position + 1 < pager.plan.pages.length)), []⟩, stage)
  | .get, none => (⟨.ok ((pager.plan.pages[pager.position]?).getD []), []⟩, stage)
  | .advance, none =>
    (⟨.ok (), []⟩, { stage with
      pagers := stage.pagers.modify (number - 1) fun pager =>
        { pager with position := pager.position + 1 } })

/-- A backend that nobody made. -/
def noProfile : Profile := ⟨⟨"", ""⟩, .empty, [], "", .empty, []⟩

def backendOf (stage : Stage) (number : Nat) : Backend :=
  (stage.backend? number).getD ⟨noProfile, .empty⟩

def answer (query : Query vendor) (stage : Stage) : Logged query.Answer × Stage :=
  match query with
  | .construct profile =>
    let (number, stage) := stage.addBackend profile
    (⟨number, []⟩, stage)
  | .call number question => answerCall number (backendOf stage number) stage question
  | .page number question => answerPage number stage question
  | .release _ => (⟨(), []⟩, stage)

/-- The rehearsed manager as a world for dialogues. -/
def world : World vendor Stage where
  identity := fun number stage => (backendOf stage number).profile.identity
  answer := answer

end AssetBroker.Rehearsal
