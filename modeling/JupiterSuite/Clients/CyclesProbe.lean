import JupiterSuite.Clients.Ledger
import Mathlib.Data.List.Sort

/-! The probe for the cycles of a canister: an ordered list of attempts that share what was
attempted. A client may answer each call by what it was asked before. -/

namespace JupiterSuite.CyclesProbe

inductive ClientError where
  | call (detail : String)
  | convert (detail : String)
  deriving DecidableEq, Repr

def ClientError.text : ClientError → String
  | .call detail => s!"inter-canister call failed: {detail}"
  | .convert detail => s!"conversion error: {detail}"

inductive CyclesProbeRoute where
  | directCanisterStatus
  | blackhole (canisterId : Principal)
  | nnsRoot
  | snsRoot (rootCanisterId : Principal)
  | snsSwap (rootCanisterId swapCanisterId : Principal)
  deriving DecidableEq, Repr

inductive CyclesProbeAudience where
  | currentCaller
  | anyCanister
  deriving DecidableEq, Repr

inductive CyclesProbePolicy where
  | fixedBlackhole (canisterId : Principal)
  | auto
  deriving DecidableEq, Repr

inductive StatusVisibility where
  | controllers
  | everyone
  | allowedViewers (viewers : List Principal)
  deriving DecidableEq, Repr

def statusVisibilityLabel : StatusVisibility → String
  | .controllers => "controllers"
  | .everyone => "public"
  | .allowedViewers _ => "allowed_viewers"

structure DirectCanisterStatusObservation where
  cycles : Nat
  statusVisibility : StatusVisibility
  controllers : List Principal
  deriving DecidableEq, Repr

structure CyclesProbeSuccess where
  cycles : Nat
  route : Option CyclesProbeRoute
  deriving DecidableEq, Repr

structure CyclesProbeFailure where
  message : String
  attemptedRoutes : List CyclesProbeRoute
  deriving DecidableEq, Repr

structure DeployedSns where
  rootCanisterId : Option Principal
  governanceCanisterId : Option Principal
  ledgerCanisterId : Option Principal
  swapCanisterId : Option Principal
  indexCanisterId : Option Principal
  deriving DecidableEq, Repr

structure ListSnsCanistersResponse where
  root : Option Principal
  governance : Option Principal
  ledger : Option Principal
  swap : Option Principal
  index : Option Principal
  dapps : List Principal
  archives : List Principal
  extensions : Option (List Principal)
  deriving DecidableEq, Repr

inductive ProbeCall where
  | selfCycles (target : Principal)
  | directCanisterStatus (target : Principal)
  | blackholeCycles (probe target : Principal)
  | nnsRootCycles (target : Principal)
  | listDeployedSnses
  | canisterInfoControllers (target : Principal)
  | listSnsCanisters (root : Principal)
  | snsRootCycles (root target : Principal)
  | snsSwapCycles (swap : Principal)
  deriving DecidableEq, Repr

/-- What a client answers, given the calls before. -/
structure CyclesProbeClient where
  configuredSnsRoot : Option Principal
  selfCycles : List ProbeCall → Principal → Option Nat
  directCanisterStatus : List ProbeCall → Principal →
    Except ClientError DirectCanisterStatusObservation
  blackholeCycles : List ProbeCall → Principal → Principal → Except ClientError Nat
  nnsRootCycles : List ProbeCall → Principal → Except ClientError Nat
  listDeployedSnses : List ProbeCall → Except ClientError (List DeployedSns)
  canisterInfoControllers : List ProbeCall → Principal → Except ClientError (List Principal)
  listSnsCanisters : List ProbeCall → Principal → Except ClientError ListSnsCanistersResponse
  snsRootCycles : List ProbeCall → Principal → Principal → Except ClientError Nat
  snsSwapCycles : List ProbeCall → Principal → Except ClientError Nat

def thirteenNodeBlackhole : Principal := ⟨[0, 0, 0, 0, 0, 224, 0, 216, 1, 1]⟩

def fiduciaryBlackhole : Principal := ⟨[0, 0, 0, 0, 2, 48, 15, 178, 1, 1]⟩

def orderedProductionBlackholes : List Principal := [thirteenNodeBlackhole, fiduciaryBlackhole]

def nnsRootId : Principal := ⟨[0, 0, 0, 0, 0, 0, 0, 3, 1, 1]⟩

/-- A `BTreeSet`, in the order of its iteration. -/
def principalSet (principals : List Principal) : List Principal :=
  principals.dedup.insertionSort (· ≤ ·)

/-- The attempted set holds the attempted routes. No code reads `calls`. -/
structure ProbeState where
  attemptedRoutes : List CyclesProbeRoute
  errors : List String
  knownControllers : Option (List Principal)
  calls : List ProbeCall
  deriving DecidableEq, Repr

abbrev ProbeOutcome := ProbeState × Except CyclesProbeFailure CyclesProbeSuccess

namespace ProbeState

def start : ProbeState := ⟨[], [], none, []⟩

def asked (st : ProbeState) (call : ProbeCall) : ProbeState :=
  { st with calls := st.calls ++ [call] }

def pushError (st : ProbeState) (text : String) : ProbeState :=
  { st with errors := st.errors ++ [text] }

def failure (st : ProbeState) (message : String) : ProbeOutcome :=
  let detail :=
    if st.errors.isEmpty then message
    else message ++ "; previous errors: " ++ String.intercalate "; " st.errors
  (st, .error ⟨detail, st.attemptedRoutes⟩)

end ProbeState

namespace CyclesProbeRoute

def call (target : Principal) : CyclesProbeRoute → ProbeCall
  | .directCanisterStatus => .directCanisterStatus target
  | .blackhole canisterId => .blackholeCycles canisterId target
  | .nnsRoot => .nnsRootCycles target
  | .snsRoot root => .snsRootCycles root target
  | .snsSwap _ swap => .snsSwapCycles swap

end CyclesProbeRoute

/-- The cycles that the call of a route reports. -/
def CyclesProbeClient.routeCycles (client : CyclesProbeClient) (before : List ProbeCall)
    (target : Principal) : CyclesProbeRoute → Except ClientError Nat
  | .directCanisterStatus =>
      (client.directCanisterStatus before target).map DirectCanisterStatusObservation.cycles
  | .blackhole canisterId => client.blackholeCycles before canisterId target
  | .nnsRoot => client.nnsRootCycles before target
  | .snsRoot root => client.snsRootCycles before root target
  | .snsSwap _ swap => client.snsSwapCycles before swap

section Discovery

def frameworkRouteFromDeployedSns (target : Principal) (sns : DeployedSns) :
    Option CyclesProbeRoute :=
  match sns.rootCanisterId with
  | none => none
  | some root =>
      if some target ∈ [some root, sns.governanceCanisterId, sns.ledgerCanisterId,
          sns.indexCanisterId] then
        some (.snsRoot root)
      else if sns.swapCanisterId = some target then some (.snsSwap root target)
      else none

def routeFromListSnsCanisters (candidateRoot target : Principal)
    (list : ListSnsCanistersResponse) : Option CyclesProbeRoute :=
  if list.root ≠ some candidateRoot then none
  else if some target ∈ [list.root, list.governance, list.ledger, list.index] then
    some (.snsRoot candidateRoot)
  else if list.swap = some target then some (.snsSwap candidateRoot target)
  else if target ∈ list.dapps ∨ target ∈ list.archives ∨
      target ∈ list.extensions.getD [] then
    some (.snsRoot candidateRoot)
  else none

variable (client : CyclesProbeClient) (principalText : Principal → String) (target : Principal)

/-- The configured root, which no registry lists, must report its live membership. -/
def configuredSnsRoute (st : ProbeState) : ProbeState × Option CyclesProbeRoute :=
  match client.configuredSnsRoot with
  | none => (st, none)
  | some root =>
      let asked := st.asked (.listSnsCanisters root)
      match client.listSnsCanisters st.calls root with
      | .error _ => (asked, none)
      | .ok list =>
          if list.governance.isSome ∧ list.ledger.isSome ∧ list.root = some root then
            (asked, routeFromListSnsCanisters root target list)
          else (asked, none)

def candidateSnsRoute : List Principal → ProbeState → List String →
    ProbeState × Except ClientError (Option CyclesProbeRoute)
  | [], st, candidateErrors =>
      if candidateErrors.isEmpty then (st, .ok none)
      else (st, .error (.call ("failed to query candidate SNS roots: " ++
        String.intercalate "; " candidateErrors)))
  | root :: rest, st, candidateErrors =>
      let asked := st.asked (.listSnsCanisters root)
      match client.listSnsCanisters st.calls root with
      | .error err =>
          candidateSnsRoute rest asked (candidateErrors ++ [s!"{principalText root}: {err.text}"])
      | .ok list =>
          match routeFromListSnsCanisters root target list with
          | some route => (asked, .ok (some route))
          | none => candidateSnsRoute rest asked candidateErrors

def discoverSnsRoute (st : ProbeState) (controllers : Option (List Principal)) :
    ProbeState × Except ClientError (Option CyclesProbeRoute) :=
  match configuredSnsRoute client target st with
  | (st, some route) => (st, .ok (some route))
  | (st, none) =>
      let asked := st.asked .listDeployedSnses
      match client.listDeployedSnses st.calls with
      | .error err => (asked, .error err)
      | .ok instances =>
          match instances.findSome? (frameworkRouteFromDeployedSns target) with
          | some route => (asked, .ok (some route))
          | none =>
              let roots := instances.filterMap DeployedSns.rootCanisterId
              let candidateRoots :=
                principalSet ((controllers.getD []).filter fun controller => controller ∈ roots)
              if candidateRoots.isEmpty then (asked, .ok none)
              else candidateSnsRoute client principalText target candidateRoots asked []

end Discovery

section Probe

variable (client : CyclesProbeClient) (principalText : Principal → String)
  (policy : CyclesProbePolicy) (target : Principal) (cachedRoute : Option CyclesProbeRoute)
  (audience : CyclesProbeAudience)

def executeRoute (st : ProbeState) (route : CyclesProbeRoute) :
    ProbeState × Except ClientError (Option CyclesProbeSuccess) :=
  if route ∈ st.attemptedRoutes then (st, .ok none)
  else
    let asked := { st with attemptedRoutes := st.attemptedRoutes ++ [route] }.asked
      (route.call target)
    match route with
    | .directCanisterStatus =>
        match client.directCanisterStatus st.calls target with
        | .error err => (asked, .error err)
        | .ok observation =>
            let known := { asked with
              knownControllers := some (principalSet observation.controllers) }
            if audience = .anyCanister ∧ observation.statusVisibility ≠ .everyone then
              (known.pushError ("direct canister_status succeeded but status visibility \x60" ++
                statusVisibilityLabel observation.statusVisibility ++
                "\x60 is not reusable by any canister"), .ok none)
            else (known, .ok (some ⟨observation.cycles, some route⟩))
    | route =>
        (asked, (client.routeCycles st.calls target route).map fun cycles =>
          some ⟨cycles, some route⟩)

/-- An attempt that is given up for the next one. -/
def tryRoute (st : ProbeState) (route : CyclesProbeRoute) (failed : String)
    (next : ProbeState → ProbeOutcome) : ProbeOutcome :=
  match executeRoute client target audience st route with
  | (st, .ok (some success)) => (st, .ok success)
  | (st, .ok none) => next st
  | (st, .error err) => next (st.pushError (failed ++ err.text))

def snsStage (controllers : Option (List Principal)) (st : ProbeState) : ProbeOutcome :=
  match discoverSnsRoute client principalText target st controllers with
  | (st, .ok (some route)) =>
      match executeRoute client target audience st route with
      | (st, .ok (some success)) => (st, .ok success)
      | (st, .ok none) => st.failure "no cycles probe route could observe target"
      | (st, .error err) => st.failure s!"SNS route probe failed after discovery: {err.text}"
  | (st, .ok none) => st.failure "no cycles probe route could observe target"
  | (st, .error err) => st.failure s!"SNS route discovery failed: {err.text}"

def nnsRootStage (controllers : List Principal) (st : ProbeState) : ProbeOutcome :=
  if nnsRootId ∈ controllers then
    tryRoute client target audience st .nnsRoot "NNS root route failed: "
      (snsStage client principalText target audience (some controllers))
  else snsStage client principalText target audience (some controllers) st

def blackholeStage (controllers : List Principal) : List Principal → ProbeState → ProbeOutcome
  | [], st => nnsRootStage client principalText target audience controllers st
  | canisterId :: rest, st =>
      if canisterId ∈ controllers then
        tryRoute client target audience st (.blackhole canisterId)
          s!"blackhole {principalText canisterId} failed: " (blackholeStage controllers rest)
      else blackholeStage controllers rest st

def controllersStage (st : ProbeState) : ProbeOutcome :=
  match st.knownControllers with
  | some controllers =>
      blackholeStage client principalText target audience controllers orderedProductionBlackholes st
  | none =>
      let asked := st.asked (.canisterInfoControllers target)
      match client.canisterInfoControllers st.calls target with
      | .ok controllers =>
          blackholeStage client principalText target audience (principalSet controllers)
            orderedProductionBlackholes asked
      | .error err =>
          snsStage client principalText target audience none
            (asked.pushError s!"canister_info controller discovery failed: {err.text}")

def cachedStage (st : ProbeState) : ProbeOutcome :=
  match cachedRoute with
  | some route =>
      tryRoute client target audience st route "cached route failed: "
        (controllersStage client principalText target audience)
  | none => controllersStage client principalText target audience st

def policyStage (st : ProbeState) : ProbeOutcome :=
  match policy with
  | .fixedBlackhole canisterId =>
      match executeRoute client target audience st (.blackhole canisterId) with
      | (st, .ok (some success)) => (st, .ok success)
      | (st, .ok none) => st.failure "fixed blackhole route was already attempted"
      | (st, .error err) => st.failure s!"fixed blackhole probe failed: {err.text}"
  | .auto => cachedStage client principalText target cachedRoute audience st

def ownNnsRootStage (st : ProbeState) : ProbeOutcome :=
  if policy = .auto ∧ target = nnsRootId then
    tryRoute client target audience st .nnsRoot "canonical NNS root self-status failed: "
      (policyStage client principalText policy target cachedRoute audience)
  else policyStage client principalText policy target cachedRoute audience st

def ownBlackholeStage (st : ProbeState) : ProbeOutcome :=
  if target ∈ orderedProductionBlackholes then
    match policy with
    | .fixedBlackhole _ =>
        match executeRoute client target audience st (.blackhole target) with
        | (st, .ok (some success)) => (st, .ok success)
        | (st, .ok none) => ownNnsRootStage client principalText policy target cachedRoute audience st
        | (st, .error err) =>
            st.failure s!"canonical blackhole self-status failed: {err.text}"
    | .auto =>
        tryRoute client target audience st (.blackhole target)
          "canonical blackhole self-status failed: "
          (ownNnsRootStage client principalText policy target cachedRoute audience)
  else ownNnsRootStage client principalText policy target cachedRoute audience st

def directStage (st : ProbeState) : ProbeOutcome :=
  if policy = .auto then
    tryRoute client target audience st .directCanisterStatus "direct route failed: "
      (ownBlackholeStage client principalText policy target cachedRoute audience)
  else ownBlackholeStage client principalText policy target cachedRoute audience st

def probeCyclesForAudience : ProbeOutcome :=
  match audience with
  | .currentCaller =>
      let asked := ProbeState.start.asked (.selfCycles target)
      match client.selfCycles [] target with
      | some cycles => (asked, .ok ⟨cycles, none⟩)
      | none => directStage client principalText policy target cachedRoute .currentCaller asked
  | .anyCanister =>
      directStage client principalText policy target cachedRoute .anyCanister ProbeState.start

end Probe

end JupiterSuite.CyclesProbe
