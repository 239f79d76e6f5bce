import Rflow.Runtime.TerminalPrompts
import Rflow.Trust.Commits
import Rflow.Trust.PeerNames

/-!
# Peers from the command line

A pairing request is decided, and trusted devices are forgotten, by commands in other processes
than the host.  They reach it over its management socket, where a request can fail before or after
the host has handled it.
-/

namespace Rflow

open Foundation

def PairingRequestId.display (requestId : PairingRequestId) : String :=
  String.ofList ('p' :: '-' :: Numerals.hexDigits 16 requestId.value)

/-- `PairingRequestId::from_str`. -/
def PairingRequestId.parse (text : String) : Outcome String PairingRequestId :=
  match text.toList with
  | 'p' :: '-' :: encoded =>
      if encoded.length ≠ 16 ∨ ¬ encoded.all (Numerals.isDigit 16) then
        .err "pairing request ID must contain 16 hexadecimal digits after p-"
      else
        .ok ⟨Numerals.numeral 16 encoded⟩
  | _ => .err "pairing request ID must start with p-"

/-- The requests that are about peers. -/
inductive ManagementRequest where
  | accept (value : Nat)
  | reject (value : Nat)
  | forgetPeer (text : String)
  deriving DecidableEq

inductive ManagementResponse where
  | decisionQueued
  | error (message : String)
  deriving DecidableEq

/-- What the management task of a host sees of its runtime. -/
structure ApplicationHandle where
  pairing : Option PairingRequestSummary
  running : Bool
  deriving DecidableEq

namespace ApplicationHandle

/-- Send a command to the runtime. -/
def send (application : ApplicationHandle) (command : AppCommand) :
    List AppCommand × ManagementResponse :=
  if application.running then
    ([command], .decisionQueued)
  else
    ([], .error "rflow runtime stopped")

/-- Send a decision about a request, if it is pending. -/
def decide (application : ApplicationHandle) (requestId : PairingRequestId)
    (command : AppCommand) : List AppCommand × ManagementResponse :=
  if application.pairing.any fun request => request.requestId = requestId then
    application.send command
  else
    ([], .error ("pairing request " ++ requestId.display ++ " is not pending"))

def dispatch (application : ApplicationHandle) :
    ManagementRequest → List AppCommand × ManagementResponse
  | .accept value => application.decide ⟨value⟩ (.acceptPairing ⟨value⟩)
  | .reject value => application.decide ⟨value⟩ (.rejectPairing ⟨value⟩)
  | .forgetPeer text =>
      match DeviceId.parse text with
      | .ok deviceId => application.send (.forgetPeer deviceId)
      | .err error => ([], .error error)
      | .panic message => ([], .error message)

end ApplicationHandle

/-- How a request to the management socket goes. -/
inductive ManagementHost where
  | unreachable (error : String)
  | answers (application : ApplicationHandle)
  /-- The host handles the request, and its response does not arrive. -/
  | silent (application : ApplicationHandle) (error : String)
  deriving DecidableEq

namespace ManagementHost

/-- What handles the request. -/
def application : ManagementHost → Option ApplicationHandle
  | unreachable _ => none
  | answers application | silent application _ => some application

def request (host : ManagementHost) (request : ManagementRequest) :
    Traced AppCommand String ManagementResponse :=
  match host with
  | unreachable error => Traced.fail error
  | answers application =>
      ⟨(application.dispatch request).1, .ok (application.dispatch request).2⟩
  | silent application error => ⟨(application.dispatch request).1, .err error⟩

/-- Whether a command for the runtime gets to it. -/
def Takes (host : ManagementHost) : Bool := host.application.any ApplicationHandle.running

end ManagementHost

/-! ## Decisions -/

/-- `rflow peers accept` and `rflow peers reject`. -/
def decidePairing (text : String) (accepted : Bool) (host : ManagementHost) :
    Traced AppCommand String String := do
  let requestId ← Traced.lift (PairingRequestId.parse text)
  let response ← host.request
    (if accepted then .accept requestId.value else .reject requestId.value)
  match response with
  | .decisionQueued =>
      pure ((if accepted then "Accepted " else "Rejected ") ++ requestId.display ++ ".")
  | .error message => Traced.fail message

section

variable {text : String} {requestId : PairingRequestId} {accepted : Bool} {host : ManagementHost}
  {command : AppCommand}

/-- A text is a printed request id, up to the case of its digits. -/
def Spells (text : String) (requestId : PairingRequestId) : Prop :=
  requestId.value < 2 ^ 64 ∧ ∃ encoded, text.toList = 'p' :: '-' :: encoded ∧
    requestId.display.toList = 'p' :: '-' :: encoded.map Char.toLower

theorem PairingRequestId.parse_eq_ok : parse text = .ok requestId ↔ Spells text requestId := by
  unfold parse Spells display
  rw [String.toList_ofList]
  constructor
  · intro parsed
    split at parsed
    · rename_i encoded written
      split_ifs at parsed with rejected
      push Not at rejected
      obtain ⟨length, digits⟩ := rejected
      obtain rfl := Outcome.ok.inj parsed
      have fits : Numerals.numeral 16 encoded < 16 ^ encoded.length :=
        Numerals.numeral_lt (by decide)
      have read := (Numerals.numeral_sixteen_iff fits).mp ⟨List.all_eq_true.mp digits, rfl⟩
      rw [length] at fits read
      exact ⟨fits, encoded, written, by rw [read]⟩
    · cases parsed
  · rintro ⟨fits, encoded, written, printed⟩
    have read : encoded.map Char.toLower = Numerals.hexDigits 16 requestId.value := by
      simpa using printed.symm
    have length : encoded.length = 16 := by simpa using congrArg List.length read
    rw [← length] at read
    obtain ⟨digits, number⟩ := (Numerals.numeral_sixteen_iff (by rwa [length])).mpr read
    simp only [written]
    rw [if_neg (by simpa [length] using digits), number]

namespace ApplicationHandle

variable {application : ApplicationHandle}

theorem send_fst :
    (application.send command).1 = if application.running then [command] else [] := by
  unfold send
  split <;> rfl

theorem send_snd_iff :
    (application.send command).2 = .decisionQueued ↔ (application.send command).1 ≠ [] := by
  unfold send
  split <;> simp

/-- A decision is sent exactly if its request is pending. -/
theorem mem_decide {sent : AppCommand} :
    sent ∈ (application.decide requestId command).1 ↔
      ∃ request, application.pairing = some request ∧ request.requestId = requestId ∧
        application.running ∧ sent = command := by
  unfold decide
  cases application.pairing with
  | none => simp
  | some request =>
      by_cases same : request.requestId = requestId
      · simp [same, send_fst]
      · simp [same]

theorem length_decide : (application.decide requestId command).1.length ≤ 1 := by
  unfold decide
  split
  · rw [send_fst]
    split <;> simp
  · simp

theorem decide_snd_iff :
    (application.decide requestId command).2 = .decisionQueued ↔
      (application.decide requestId command).1 ≠ [] := by
  unfold decide
  split
  · exact send_snd_iff
  · simp

end ApplicationHandle

/-- The command for a decision. -/
def decision (accepted : Bool) (requestId : PairingRequestId) : AppCommand :=
  if accepted then .acceptPairing requestId else .rejectPairing requestId

theorem dispatch_decision (application : ApplicationHandle) :
    application.dispatch (if accepted then .accept requestId.value else .reject requestId.value) =
      application.decide requestId (decision accepted requestId) := by
  cases accepted <;> rfl

theorem decidePairing_outputs :
    (decidePairing text accepted host).outputs =
      match PairingRequestId.parse text, host.application with
      | .ok requestId, some application =>
          (application.decide requestId (decision accepted requestId)).1
      | _, _ => [] := by
  have ends (requestId : PairingRequestId) (response : ManagementResponse) :
      (match response with
        | .decisionQueued =>
            pure ((if accepted then "Accepted " else "Rejected ") ++ requestId.display ++ ".")
        | .error message => Traced.fail message :
          Traced AppCommand String String).outputs = [] := by
    cases response <;> rfl
  unfold decidePairing
  rw [Traced.bind_outputs, Traced.lift_outputs, Traced.lift_outcome]
  cases PairingRequestId.parse text with
  | ok requestId =>
      simp only [Traced.bind_outputs, ends, List.nil_append]
      cases host with
      | unreachable error => rfl
      | answers application | silent application error =>
          simp [ManagementHost.request, ManagementHost.application, dispatch_decision]
  | err _ | panic _ => rfl

/-- A decision gets to the runtime exactly if its text is the id of the request that is pending
when the host handles it, up to the case of the digits; it is then the only command, and about this
request.  It is reported as done exactly if moreover the response arrives. -/
theorem decision_sent_iff :
    (command ∈ (decidePairing text accepted host).outputs ↔
        ∃ application request, host.application = some application ∧ application.running ∧
          application.pairing = some request ∧ Spells text request.requestId ∧
          command = decision accepted request.requestId) ∧
      (decidePairing text accepted host).outputs.length ≤ 1 ∧
      ((decidePairing text accepted host).outcome.IsOk ↔
        (∃ application, host = .answers application) ∧
          (decidePairing text accepted host).outputs ≠ []) := by
  rw [decidePairing_outputs]
  refine ⟨?_, ?_, ?_⟩
  · constructor
    · intro sent
      split at sent
      · rename_i requestId application parsed handles
        obtain ⟨request, pending, rfl, running, same⟩ := ApplicationHandle.mem_decide.mp sent
        exact ⟨application, request, handles, running, pending,
          PairingRequestId.parse_eq_ok.mp parsed, same⟩
      · simp at sent
    · rintro ⟨application, request, handles, running, pending, spelled, same⟩
      simp only [handles, PairingRequestId.parse_eq_ok.mpr spelled]
      exact ApplicationHandle.mem_decide.mpr ⟨request, pending, rfl, running, same⟩
  · split
    · exact ApplicationHandle.length_decide
    · simp
  · unfold decidePairing
    rw [Traced.bind_outcome, Traced.lift_outcome]
    cases PairingRequestId.parse text with
    | ok requestId =>
        cases host with
        | unreachable error | silent application error =>
            simp [ManagementHost.request, Outcome.IsOk]
        | answers application =>
            have queued : (application.decide requestId (decision accepted requestId)).2 =
                .decisionQueued ↔ _ := ApplicationHandle.decide_snd_iff
            simp only [ManagementHost.request, ManagementHost.application, Outcome.ok_bind,
              Traced.bind_outcome, dispatch_decision, ← queued]
            cases (application.decide requestId (decision accepted requestId)).2 <;>
              simp [Outcome.IsOk]
    | err _ | panic _ => simp [Outcome.IsOk]

end

/-! ## Forgotten devices -/

inductive PeerOutput where
  | print (text : String)
  /-- A command gets to the runtime of the host. -/
  | send (command : AppCommand)
  deriving DecidableEq

def PeerOutput.command : PeerOutput → Option AppCommand
  | print _ => none
  | send command => some command

/-- The devices to forget, with the names they go by: all of them, or a given one. -/
def TrustDatabase.selected (database : TrustDatabase) :
    Option String → Outcome String (List (DeviceId × String))
  | none => .ok (database.peers.map fun peer => (peer.deviceId, peer.displayName))
  | some device => do
      let deviceId ← database.resolvePeer device
      pure [(deviceId, device)]

/-- Tell the host of devices one after the other: what it sends to its runtime, and the first error
that it answers with. -/
def tellForgotten (host : DeviceId → ManagementHost) :
    List DeviceId → List AppCommand × Option String
  | [] => ([], none)
  | deviceId :: rest =>
      let told := (host deviceId).request (.forgetPeer deviceId.display)
      let later := tellForgotten host rest
      (told.outputs ++ later.1,
        match told.outcome with
        | .ok (.error message) => some message
        | _ => later.2)

/-- What is asked before devices are forgotten. -/
def forgetQuestion (device : Option String) (peers : List (DeviceId × String))
    (first : DeviceId × String) : String :=
  match device with
  | none => "Forget all " ++ toString peers.length ++ " trusted devices? [y/N] "
  | some _ => "Forget trusted device " ++ first.2 ++ " (" ++ first.1.display ++ ")? [y/N] "

/-- `rflow peers forget`, given the trust store that it has loaded. -/
def forgetPeers (fromCertificate : Certificate → DeviceId) (store : TrustStore)
    (device : Option String) (yes : Bool) (reads : List PromptRead) (fault : Option CommitStep)
    (host : DeviceId → ManagementHost) : Traced PeerOutput String String × TrustStore :=
  match store.database.selected device with
  | .ok [] => (pure "No trusted devices.", store)
  | .ok (first :: rest) =>
      let asked := if yes then [] else [.print (forgetQuestion device (first :: rest) first)]
      if yes ∨ confirms reads then
        let operation := if device.isNone then .forgetAll else .forget first.1
        let (committed, next) := store.perform fromCertificate operation fault
        match committed with
        | .ok () =>
            let told := tellForgotten host ((first :: rest).map Prod.fst)
            let outcome := match told.2 with
              | some message => .err
                  ("peers were forgotten, but the running host rejected an update: " ++ message)
              | none => .ok (match device with
                  | none => "Forgot " ++ toString (first :: rest).length ++ " trusted devices."
                  | some _ => "Forgot " ++ first.2 ++ ".")
            (⟨asked ++ told.1.map .send, outcome⟩, next)
        | .err error => (⟨asked, .err error⟩, next)
        | .panic message => (⟨asked, .panic message⟩, next)
      else
        (⟨asked, .ok "Cancelled."⟩, store)
  | .err error => (Traced.fail error, store)
  | .panic message => (Traced.lift (.panic message), store)

def TrustFile.lists : TrustFile → DeviceId → Bool
  | .database stored, deviceId => stored.lists deviceId
  | _, _ => false

/-- The devices of a database that a file does not list. -/
def TrustDatabase.missing (database : TrustDatabase) (file : TrustFile) : List DeviceId :=
  (database.peers.map TrustedPeer.deviceId).filter fun deviceId => !file.lists deviceId

section

variable {fromCertificate : Certificate → DeviceId} {store next : TrustStore}
  {device : Option String} {yes : Bool} {reads : List PromptRead} {fault : Option CommitStep}
  {host : DeviceId → ManagementHost} {file : TrustFile} {deviceId : DeviceId}
  {call : Traced PeerOutput String String}

theorem request_forgetPeer {host : ManagementHost} :
    (host.request (.forgetPeer deviceId.display)).outputs =
      if host.Takes then [.forgetPeer deviceId] else [] := by
  have parsed : DeviceId.parse deviceId.display = .ok deviceId := DeviceId.parse_eq_ok.mpr rfl
  cases host with
  | unreachable error => rfl
  | answers application | silent application error =>
      simp only [ManagementHost.request, ApplicationHandle.dispatch, parsed,
        ApplicationHandle.send_fst, ManagementHost.Takes, ManagementHost.application,
        Option.any_some]
      rfl

/-- The host is told of each device that it takes, in order. -/
theorem tellForgotten_fst (devices : List DeviceId) :
    (tellForgotten host devices).1 =
      (devices.filter fun deviceId => (host deviceId).Takes).map AppCommand.forgetPeer := by
  induction devices with
  | nil => rfl
  | cons deviceId devices induction =>
      rw [tellForgotten, request_forgetPeer, List.filter_cons, induction]
      split <;> rfl

/-! ## The trust file after a removal -/

theorem missing_forgetting {database : TrustDatabase}
    (wellFormed : database.WellFormed fromCertificate) (listed : database.lists deviceId = true) :
    database.missing (.database (database.forgetting deviceId)) = [deviceId] := by
  have member := TrustDatabase.lists_iff.mp listed
  have gone (other : DeviceId) (known : other ∈ database.peers.map TrustedPeer.deviceId) :
      (!(database.forgetting deviceId).lists other) = decide (other = deviceId) := by
    rw [Bool.eq_iff_iff, Bool.not_eq_true', ← Bool.not_eq_true, TrustDatabase.lists_iff,
      decide_eq_true_eq]
    obtain ⟨peer, kept, rfl⟩ := List.mem_map.mp known
    simp only [TrustDatabase.forgetting, List.mem_map, List.mem_filter, decide_eq_true_eq]
    constructor
    · intro unlisted
      by_contra different
      exact unlisted ⟨peer, ⟨kept, different⟩, rfl⟩
    · rintro same ⟨other, ⟨-, different⟩, equal⟩
      exact different (equal.trans same)
  calc
    database.missing (.database (database.forgetting deviceId)) =
        (database.peers.map TrustedPeer.deviceId).filter fun other => decide (other = deviceId) :=
      List.filter_congr gone
    _ = [deviceId] := by
      rw [List.filter_eq, List.count_eq_one_of_mem wellFormed.distinct member]
      rfl

/-- A removal commits a database that lists none of the selected devices, and all others. -/
theorem perform_removal (fault : Option CommitStep) (mirrored : store.Mirrored fromCertificate)
    {first : DeviceId × String} {rest : List (DeviceId × String)}
    (selected : store.database.selected device = .ok (first :: rest)) :
    ∃ candidate, store.perform fromCertificate
        (if device.isNone then .forgetAll else .forget first.1) fault =
          store.commit candidate fault ∧
      store.database.missing (.database candidate) = (first :: rest).map Prod.fst := by
  cases device with
  | none =>
      have same := Outcome.ok.inj selected
      refine ⟨{ store.database with peers := [], endpoints := [] }, ?_, ?_⟩
      · have some : store.database.peers.length ≠ 0 := by
          intro none
          rw [List.length_eq_zero_iff.mp none] at same
          cases same
        rw [TrustStore.perform_eq]
        simp only [Option.isNone_none, if_true, TrustDatabase.proposal, if_neg some,
          TrustStore.settle]
      · rw [← same]
        simp [TrustDatabase.missing, TrustFile.lists, TrustDatabase.lists, Function.comp_def]
  | some query =>
      obtain ⟨deviceId, resolved, same⟩ := Outcome.bind_eq_ok.mp selected
      have listed := (TrustDatabase.resolvePeer_eq_ok.mp resolved).lists
      obtain ⟨rfl, rfl⟩ := List.cons.inj (Outcome.ok.inj same)
      refine ⟨store.database.forgetting deviceId, ?_,
        missing_forgetting mirrored.wellFormed listed⟩
      have shorter := (not_congr TrustDatabase.length_forgetting_iff).mpr
        (not_not.mpr (TrustDatabase.lists_iff.mp listed))
      rw [TrustStore.perform_eq]
      simp only [Option.isNone_some, Bool.false_eq_true, if_false, TrustDatabase.proposal,
        if_neg shorter, TrustStore.settle]

theorem missing_self (mirrored : store.Mirrored fromCertificate) :
    store.database.missing store.file = [] := by
  have file := mirrored.file
  refine List.filter_eq_nil_iff.mpr fun deviceId member => ?_
  cases contents : store.file with
  | absent =>
      rw [contents] at file
      obtain same : default = store.database := Outcome.ok.inj file
      rw [← same] at member
      cases member
  | undecodable => rw [contents] at file; cases file
  | database stored =>
      rw [contents] at file
      obtain rfl : stored = store.database := Outcome.ok.inj file
      simpa [TrustFile.lists] using TrustDatabase.lists_iff.mpr member

/-- The commands that a removal gets to the runtime of the host. -/
def commands (call : Traced PeerOutput String String) : List AppCommand :=
  call.outputs.filterMap PeerOutput.command

/-- Nothing happens to the store and the host, or the selected devices are removed; the host is told
of them if the removal succeeds, else of none. -/
theorem forgetPeers_cases
    (forgets : forgetPeers fromCertificate store device yes reads fault host = (call, next)) :
    (commands call = [] ∧ next = store) ∨
      ∃ first rest committed, store.database.selected device = .ok (first :: rest) ∧
        store.perform fromCertificate (if device.isNone then .forgetAll else .forget first.1)
          fault = (committed, next) ∧
        commands call = match committed with
          | .ok () => (tellForgotten host ((first :: rest).map Prod.fst)).1
          | _ => [] := by
  have asked (text : String) :
      ((if yes then [] else [PeerOutput.print text]).filterMap PeerOutput.command) = [] := by
    cases yes <;> rfl
  unfold forgetPeers at forgets
  split at forgets
  · obtain ⟨rfl, rfl⟩ := Prod.mk.inj forgets
    exact .inl ⟨rfl, rfl⟩
  · rename_i first rest selected
    dsimp only at forgets
    split at forgets
    · generalize performed : store.perform fromCertificate
        (if device.isNone then .forgetAll else .forget first.1) fault = result at forgets
      obtain ⟨committed, after⟩ := result
      refine .inr ⟨first, rest, committed, selected, ?_⟩
      cases committed with
      | ok done =>
          obtain ⟨rfl, rfl⟩ := Prod.mk.inj forgets
          refine ⟨performed, ?_⟩
          simp only [commands, List.filterMap_append, asked, List.nil_append,
            List.filterMap_map, Function.comp_def, PeerOutput.command, List.filterMap_some]
      | err _ | panic _ =>
          obtain ⟨rfl, rfl⟩ := Prod.mk.inj forgets
          exact ⟨performed, asked _⟩
    · obtain ⟨rfl, rfl⟩ := Prod.mk.inj forgets
      exact .inl ⟨asked _, rfl⟩
  · obtain ⟨rfl, rfl⟩ := Prod.mk.inj forgets
    exact .inl ⟨rfl, rfl⟩
  · obtain ⟨rfl, rfl⟩ := Prod.mk.inj forgets
    exact .inl ⟨rfl, rfl⟩

/-- Only the device that a query stands for is removed. -/
theorem forgetPeers_names (mirrored : store.Mirrored fromCertificate) {query : String}
    (forgets : forgetPeers fromCertificate store (some query) yes reads fault host = (call, next))
    (removed : deviceId ∈ store.database.missing next.file) :
    store.database.Names query deviceId := by
  obtain ⟨-, rfl⟩ | ⟨first, rest, committed, selected, performed, -⟩ := forgetPeers_cases forgets
  · simp [missing_self mirrored] at removed
  · obtain ⟨candidate, commits, gone⟩ := perform_removal fault mirrored selected
    obtain ⟨resolvedId, resolved, same⟩ := Outcome.bind_eq_ok.mp selected
    obtain ⟨rfl, rfl⟩ := List.cons.inj (Outcome.ok.inj same)
    have written : next.file = store.file ∨ next.file = .database candidate := by
      rw [commits] at performed
      obtain rfl := (congrArg Prod.snd performed).symm
      match fault with
      | none | some .syncDirectory => exact .inr rfl
      | some .createDirectory | some .removeStale | some .createTemporary | some .writeTemporary
      | some .syncTemporary | some .rename => exact .inl rfl
    obtain file | file := written
    · simp [file, missing_self mirrored] at removed
    · rw [file, gone] at removed
      obtain rfl := List.mem_singleton.mp removed
      exact TrustDatabase.resolvePeer_eq_ok.mp resolved

/-- The host is told of exactly the devices that the trust file no longer lists, in order and as far
as it takes commands, unless the removal is written and only the last step of its commit fails:
then the devices are gone from the file, and the host is told of none.  A query removes the device
that it stands for at most. -/
theorem forgotten_told_iff (loaded : TrustStore.load fromCertificate file = .ok store)
    (forgets : forgetPeers fromCertificate store device yes reads fault host = (call, next)) :
    (commands call =
          ((store.database.missing next.file).filter fun deviceId =>
            (host deviceId).Takes).map AppCommand.forgetPeer ↔
        ¬ (fault = some .syncDirectory ∧
          ∃ deviceId ∈ store.database.missing next.file, (host deviceId).Takes)) ∧
      ∀ query, device = some query → ∀ deviceId ∈ store.database.missing next.file,
        store.database.Names query deviceId := by
  have mirrored := (TrustStore.load_eq_ok.mp loaded).2
  refine ⟨?_, fun query same deviceId removed => ?_⟩
  · obtain ⟨silent, rfl⟩ | ⟨first, rest, committed, selected, performed, told⟩ :=
      forgetPeers_cases forgets
    · rw [silent, missing_self mirrored]
      simp
    · obtain ⟨candidate, commits, gone⟩ := perform_removal fault mirrored selected
      rw [commits] at performed
      by_cases unsynced : fault = some .syncDirectory
      · subst unsynced
        obtain ⟨rfl, rfl⟩ := Prod.mk.inj performed
        rw [told, gone, eq_comm, List.map_eq_nil_iff, List.filter_eq_nil_iff]
        simp
      · cases fault with
        | none =>
            obtain ⟨rfl, rfl⟩ := Prod.mk.inj performed
            rw [told, gone, tellForgotten_fst]
            simp
        | some step =>
            rw [TrustStore.commit_of_ne fun last => unsynced (congrArg some last)] at performed
            obtain ⟨rfl, rfl⟩ := Prod.mk.inj performed
            rw [told, missing_self mirrored]
            simp
  · subst same
    exact forgetPeers_names mirrored forgets removed

def sampleTrusted : TrustDatabase where
  version := 1
  peers := [{
    deviceId := TrustStore.emptyDigest
    displayName := "laptop"
    certificate := []
    firstSeenAt := 0
    lastSeenAt := none }]
  endpoints := []

/-- The only trusted device is forgotten by its name, and the host is told. -/
theorem forgotten_told_iff_laptop :
    ∃ call next,
      forgetPeers (fun _ => TrustStore.emptyDigest) ⟨sampleTrusted, .database sampleTrusted⟩
          (some "laptop") true [] none (fun _ => .answers ⟨none, true⟩) = (call, next) ∧
        sampleTrusted.missing next.file = [TrustStore.emptyDigest] ∧
        commands call = [.forgetPeer TrustStore.emptyDigest] := by
  have loaded : TrustStore.load (fun _ => TrustStore.emptyDigest) (.database sampleTrusted) =
      .ok ⟨sampleTrusted, .database sampleTrusted⟩ := by decide
  obtain ⟨call, next, forgets, removed⟩ : ∃ call next,
      forgetPeers (fun _ => TrustStore.emptyDigest) ⟨sampleTrusted, .database sampleTrusted⟩
          (some "laptop") true [] none (fun _ => .answers ⟨none, true⟩) = (call, next) ∧
        sampleTrusted.missing next.file = [TrustStore.emptyDigest] := ⟨_, _, rfl, by decide⟩
  refine ⟨call, next, forgets, removed, ?_⟩
  rw [(forgotten_told_iff loaded forgets).1.mpr (by simp), removed]
  rfl

end
end Rflow
