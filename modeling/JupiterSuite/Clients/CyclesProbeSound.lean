import JupiterSuite.Clients.CyclesProbe

/-! What holds of a probe for any replies: each route is executed once, by the call for the target,
and a route of an SNS only when the SNS names the target. -/

namespace JupiterSuite.CyclesProbe

namespace ProbeCall

def isDiscovery : ProbeCall → Bool
  | .listDeployedSnses | .canisterInfoControllers _ | .listSnsCanisters _ => true
  | _ => false

def isExecution : ProbeCall → Bool
  | .directCanisterStatus _ | .blackholeCycles _ _ | .nnsRootCycles _ | .snsRootCycles _ _
  | .snsSwapCycles _ => true
  | _ => false

end ProbeCall

def DeployedSns.names (sns : DeployedSns) (target : Principal) : Prop :=
  some target ∈ [sns.rootCanisterId, sns.governanceCanisterId, sns.ledgerCanisterId,
    sns.indexCanisterId]

def ListSnsCanistersResponse.names (list : ListSnsCanistersResponse) (target : Principal) : Prop :=
  some target ∈ [list.root, list.governance, list.ledger, list.index] ∨
    target ∈ list.dapps ∨ target ∈ list.archives ∨ target ∈ list.extensions.getD []

section Sound

variable (client : CyclesProbeClient) (target : Principal)

def AskedAfter (calls before : List ProbeCall) (call : ProbeCall) : Prop :=
  before ++ [call] <+: calls

/-- The record of the root at the registry, or the list that the root itself gives, names the
target. -/
def NamedBy (calls : List ProbeCall) (root : Principal) : Prop :=
  (∃ before instances, AskedAfter calls before .listDeployedSnses ∧
    client.listDeployedSnses before = .ok instances ∧
    ∃ sns ∈ instances, sns.rootCanisterId = some root ∧ sns.names target) ∨
  ∃ before list, AskedAfter calls before (.listSnsCanisters root) ∧
    client.listSnsCanisters before root = .ok list ∧ list.root = some root ∧ list.names target

/-- The cycles of a success were read by the last call of the probe, and for this audience. -/
def ReadLast (audience : CyclesProbeAudience) (calls : List ProbeCall)
    (success : CyclesProbeSuccess) : Prop :=
  match success.route with
  | none => audience = .currentCaller ∧ calls = [.selfCycles target] ∧
      client.selfCycles [] target = some success.cycles
  | some route => ∃ before, calls = before ++ [route.call target] ∧
      client.routeCycles before target route = .ok success.cycles ∧
      (audience = .anyCanister → route = .directCanisterStatus →
        ∃ observation, client.directCanisterStatus before target = .ok observation ∧
          observation.statusVisibility = .everyone)

variable (policy : CyclesProbePolicy) (cachedRoute : Option CyclesProbeRoute)
  (audience : CyclesProbeAudience)

/-- The cached route is not the swap of another canister. -/
def OwnCache : Prop := ∀ root swap, cachedRoute = some (.snsSwap root swap) → swap = target

structure ProbeInvariant (st : ProbeState) : Prop where
  once : st.attemptedRoutes.Nodup
  executed : st.calls.filter ProbeCall.isExecution =
    st.attemptedRoutes.map (CyclesProbeRoute.call target)
  quiet : ∀ canisterId, policy = .fixedBlackhole canisterId →
    ∀ call ∈ st.calls, call.isDiscovery = false
  impersonal : audience = .anyCanister → ProbeCall.selfCycles target ∉ st.calls
  swaps : OwnCache target cachedRoute →
    ∀ root swap, .snsSwap root swap ∈ st.attemptedRoutes → swap = target
  roots : ∀ root, .snsRoot root ∈ st.attemptedRoutes →
    cachedRoute = some (.snsRoot root) ∨ NamedBy client target st.calls root

structure SuccessSound (st : ProbeState) (success : CyclesProbeSuccess) : Prop where
  last : success.route = st.attemptedRoutes.getLast?
  read : ReadLast client target audience st.calls success

structure OutcomeSound (outcome : ProbeOutcome) : Prop where
  invariant : ProbeInvariant client target policy cachedRoute audience outcome.1
  success : ∀ success, outcome.2 = .ok success → SuccessSound client target audience outcome.1
    success
  failure : ∀ failure, outcome.2 = .error failure →
    failure.attemptedRoutes = outcome.1.attemptedRoutes

structure Permitted (st : ProbeState) (route : CyclesProbeRoute) : Prop where
  swap : OwnCache target cachedRoute → ∀ root swap, route = .snsSwap root swap → swap = target
  root : ∀ root, route = .snsRoot root →
    cachedRoute = some (.snsRoot root) ∨ NamedBy client target st.calls root

end Sound

variable {root : Principal} {before : List ProbeCall}

section Steps

variable {client : CyclesProbeClient} {principalText : Principal → String} {target : Principal}
  {policy : CyclesProbePolicy} {cachedRoute : Option CyclesProbeRoute}
  {audience : CyclesProbeAudience} {st : ProbeState} {route : CyclesProbeRoute}

theorem NamedBy.mono {calls later : List ProbeCall} (named : NamedBy client target calls root)
    (extends_ : calls <+: later) :
    NamedBy client target later root := by
  rcases named with ⟨before, instances, asked, rest⟩ | ⟨before, list, asked, rest⟩
  · exact Or.inl ⟨before, instances, asked.trans extends_, rest⟩
  · exact Or.inr ⟨before, list, asked.trans extends_, rest⟩

theorem call_isExecution (route : CyclesProbeRoute) :
    (route.call target).isExecution = true := by
  cases route <;> rfl

theorem call_isDiscovery (route : CyclesProbeRoute) :
    (route.call target).isDiscovery = false := by
  cases route <;> rfl

theorem call_ne_selfCycles (route : CyclesProbeRoute) :
    route.call target ≠ .selfCycles target := by
  cases route <;> intro same <;> cases same

theorem permitted_fixed (st : ProbeState) (plain : ∀ root, route ≠ .snsRoot root)
    (apart : ∀ root swap, route ≠ .snsSwap root swap) :
    Permitted client target cachedRoute st route where
  swap _ root swap same := absurd same (apart root swap)
  root root same := absurd same (plain root)

theorem ProbeInvariant.attempt
    (invariant : ProbeInvariant client target policy cachedRoute audience st)
    (permitted : Permitted client target cachedRoute st route)
    (fresh : route ∉ st.attemptedRoutes) :
    ProbeInvariant client target policy cachedRoute audience
      ({ st with attemptedRoutes := st.attemptedRoutes ++ [route] }.asked (route.call target)) where
  once := by
    apply List.Nodup.append invariant.once (List.nodup_singleton route)
    intro one member same
    rw [List.mem_singleton.mp same] at member
    exact fresh member
  executed := by
    simp only [ProbeState.asked, List.filter_append, invariant.executed, List.map_append,
      List.filter_cons, call_isExecution, if_true, List.filter_nil, List.map_cons, List.map_nil]
  quiet := by
    intro canisterId fixed call member
    rcases List.mem_append.mp member with earlier | now
    · exact invariant.quiet canisterId fixed call earlier
    · rw [List.mem_singleton.mp now]
      exact call_isDiscovery route
  impersonal := by
    intro anyone member
    rcases List.mem_append.mp member with earlier | now
    · exact invariant.impersonal anyone earlier
    · exact call_ne_selfCycles route (List.mem_singleton.mp now).symm
  swaps := by
    intro own root swap member
    rcases List.mem_append.mp member with earlier | now
    · exact invariant.swaps own root swap earlier
    · exact permitted.swap own root swap (List.mem_singleton.mp now).symm
  roots := by
    intro root member
    have extended : st.calls <+: st.calls ++ [route.call target] := List.prefix_append _ _
    rcases List.mem_append.mp member with earlier | now
    · exact (invariant.roots root earlier).imp_right fun named => named.mono extended
    · have root := permitted.root root (List.mem_singleton.mp now).symm
      exact root.imp_right fun named => named.mono extended

theorem ProbeInvariant.discover
    (invariant : ProbeInvariant client target policy cachedRoute audience st)
    (free : policy = .auto) (call : ProbeCall) (discovery : call.isDiscovery = true) :
    ProbeInvariant client target policy cachedRoute audience (st.asked call) where
  once := invariant.once
  executed := by
    have idle : call.isExecution = false := by
      cases call <;> first | rfl | cases discovery
    simp only [ProbeState.asked, List.filter_append, invariant.executed, List.filter_cons, idle,
      Bool.false_eq_true, if_false, List.filter_nil, List.append_nil]
  quiet := by
    intro canisterId fixed
    rw [free] at fixed
    cases fixed
  impersonal := by
    intro anyone member
    rcases List.mem_append.mp member with earlier | now
    · exact invariant.impersonal anyone earlier
    · rw [← List.mem_singleton.mp now] at discovery
      cases discovery
  swaps := invariant.swaps
  roots := by
    intro root member
    have extended : st.calls <+: st.calls ++ [call] := List.prefix_append _ _
    exact (invariant.roots root member).imp_right fun named => named.mono extended

/-- The errors and the remembered controllers are not part of the invariant. -/
theorem ProbeInvariant.congr {other : ProbeState}
    (invariant : ProbeInvariant client target policy cachedRoute audience st)
    (attempted : other.attemptedRoutes = st.attemptedRoutes) (calls : other.calls = st.calls) :
    ProbeInvariant client target policy cachedRoute audience other := by
  rcases other with ⟨attemptedRoutes, errors, known, asked⟩
  dsimp only at attempted calls
  subst attempted calls
  exact ⟨invariant.once, invariant.executed, invariant.quiet, invariant.impersonal,
    invariant.swaps, invariant.roots⟩

/-- What an execution keeps, and what it reports. -/
structure ExecutionSound (client : CyclesProbeClient) (target : Principal)
    (policy : CyclesProbePolicy) (cachedRoute : Option CyclesProbeRoute)
    (audience : CyclesProbeAudience)
    (result : ProbeState × Except ClientError (Option CyclesProbeSuccess)) : Prop where
  invariant : ProbeInvariant client target policy cachedRoute audience result.1
  success : ∀ success, result.2 = .ok (some success) →
    SuccessSound client target audience result.1 success

theorem executeRoute_sound
    (invariant : ProbeInvariant client target policy cachedRoute audience st)
    (permitted : Permitted client target cachedRoute st route) :
    ExecutionSound client target policy cachedRoute audience
      (executeRoute client target audience st route) := by
  rw [executeRoute.eq_def]
  split
  · exact ⟨invariant, (fun success ok => by cases ok)⟩
  · rename_i fresh
    have attempted := invariant.attempt permitted fresh
    have last : some route = (st.attemptedRoutes ++ [route]).getLast? :=
      (List.getLast?_concat).symm
    dsimp only
    split
    · cases answer : client.directCanisterStatus st.calls target with
      | error err => exact ⟨attempted, (fun success ok => by cases ok)⟩
      | ok observation =>
          dsimp only
          split
          · exact ⟨attempted.congr rfl rfl, (fun success ok => by cases ok)⟩
          · rename_i reusable
            refine ⟨attempted.congr rfl rfl, ?_⟩
            rintro success ⟨⟩
            refine ⟨last, st.calls, rfl, ?_, ?_⟩
            · simp only [CyclesProbeClient.routeCycles, answer]
              rfl
            · intro anyone _
              refine ⟨observation, answer, ?_⟩
              by_contra hidden
              exact reusable ⟨anyone, hidden⟩
    · rename_i indirect
      refine ⟨attempted, ?_⟩
      intro success ok
      cases answer : client.routeCycles st.calls target route with
      | error err =>
          dsimp only at ok
          rw [answer] at ok
          cases ok
      | ok cycles =>
          dsimp only at ok
          rw [answer] at ok
          cases ok
          refine ⟨last, st.calls, rfl, answer, ?_⟩
          intro _ direct
          exact absurd direct indirect

theorem tryRoute_sound {failed : String} {next : ProbeState → ProbeOutcome}
    (invariant : ProbeInvariant client target policy cachedRoute audience st)
    (permitted : Permitted client target cachedRoute st route)
    (later : ∀ st, ProbeInvariant client target policy cachedRoute audience st →
      OutcomeSound client target policy cachedRoute audience (next st)) :
    OutcomeSound client target policy cachedRoute audience
      (tryRoute client target audience st route failed next) := by
  have sound := executeRoute_sound invariant permitted
  rw [tryRoute]
  generalize executeRoute client target audience st route = result at sound ⊢
  rcases result with ⟨after, err | (_ | success)⟩
  · exact later _ (sound.invariant.congr rfl rfl)
  · exact later _ sound.invariant
  · refine ⟨sound.invariant, ?_, (fun failure error => by cases error)⟩
    rintro other ⟨⟩
    exact sound.success success rfl

theorem failure_sound (message : String)
    (invariant : ProbeInvariant client target policy cachedRoute audience st) :
    OutcomeSound client target policy cachedRoute audience (st.failure message) := by
  refine ⟨invariant, ?_, ?_⟩
  · intro success ok
    cases ok
  · rintro failure ⟨⟩
    rfl

theorem finalRoute_sound {exhausted : String} {failed : ClientError → String}
    (invariant : ProbeInvariant client target policy cachedRoute audience st)
    (permitted : Permitted client target cachedRoute st route) :
    OutcomeSound client target policy cachedRoute audience
      (match executeRoute client target audience st route with
      | (st, .ok (some success)) => (st, .ok success)
      | (st, .ok none) => st.failure exhausted
      | (st, .error err) => st.failure (failed err)) := by
  have sound := executeRoute_sound invariant permitted
  generalize executeRoute client target audience st route = result at sound ⊢
  rcases result with ⟨after, err | (_ | success)⟩
  · exact failure_sound _ sound.invariant
  · exact failure_sound _ sound.invariant
  · refine ⟨sound.invariant, ?_, (fun failure error => by cases error)⟩
    rintro other ⟨⟩
    exact sound.success success rfl

end Steps

section Discovery

variable {client : CyclesProbeClient} {principalText : Principal → String} {target : Principal}
  {policy : CyclesProbePolicy} {cachedRoute : Option CyclesProbeRoute}
  {audience : CyclesProbeAudience} {st : ProbeState} {route : CyclesProbeRoute}

theorem permitted_root (named : NamedBy client target st.calls root) :
    Permitted client target cachedRoute st (.snsRoot root) where
  swap := by
    intro _ other swap same
    cases same
  root := by
    rintro _ ⟨⟩
    exact Or.inr named

theorem permitted_swap (root : Principal) :
    Permitted client target cachedRoute st (.snsSwap root target) where
  swap := by
    rintro _ _ _ ⟨⟩
    rfl
  root := by
    intro other same
    cases same

theorem routeFromListSnsCanisters_permitted {list : ListSnsCanistersResponse}
    (asked : AskedAfter st.calls before (.listSnsCanisters root))
    (answer : client.listSnsCanisters before root = .ok list)
    (found : routeFromListSnsCanisters root target list = some route) :
    Permitted client target cachedRoute st route := by
  rw [routeFromListSnsCanisters] at found
  split at found
  · cases found
  · rename_i own
    rw [not_not] at own
    split at found
    · rename_i listed
      cases found
      exact permitted_root (Or.inr ⟨before, list, asked, answer, own, Or.inl listed⟩)
    · split at found
      · cases found
        exact permitted_swap root
      · split at found
        · rename_i listed
          cases found
          exact permitted_root (Or.inr ⟨before, list, asked, answer, own, Or.inr listed⟩)
        · cases found

theorem frameworkRouteFromDeployedSns_permitted {sns : DeployedSns} {instances : List DeployedSns}
    (asked : AskedAfter st.calls before .listDeployedSnses)
    (answer : client.listDeployedSnses before = .ok instances) (member : sns ∈ instances)
    (found : frameworkRouteFromDeployedSns target sns = some route) :
    Permitted client target cachedRoute st route := by
  rw [frameworkRouteFromDeployedSns] at found
  split at found
  · cases found
  · rename_i root recorded
    split at found
    · rename_i listed
      cases found
      rw [← recorded] at listed
      exact permitted_root (Or.inl ⟨before, instances, asked, answer, sns, member, recorded, listed⟩)
    · split at found
      · cases found
        exact permitted_swap root
      · cases found

/-- What a discovery keeps, and that its route may be executed. -/
structure DiscoverySound (client : CyclesProbeClient) (target : Principal)
    (policy : CyclesProbePolicy) (cachedRoute : Option CyclesProbeRoute)
    (audience : CyclesProbeAudience)
    (result : ProbeState × Except ClientError (Option CyclesProbeRoute)) : Prop where
  invariant : ProbeInvariant client target policy cachedRoute audience result.1
  permitted : ∀ route, result.2 = .ok (some route) →
    Permitted client target cachedRoute result.1 route

theorem candidateSnsRoute_sound (free : policy = .auto) (roots : List Principal)
    (candidateErrors : List String)
    (invariant : ProbeInvariant client target policy cachedRoute audience st) :
    DiscoverySound client target policy cachedRoute audience
      (candidateSnsRoute client principalText target roots st candidateErrors) := by
  induction roots generalizing st candidateErrors with
  | nil =>
      rw [candidateSnsRoute]
      split
      · exact ⟨invariant, (fun route ok => by cases ok)⟩
      · exact ⟨invariant, (fun route ok => by cases ok)⟩
  | cons root rest ih =>
      have asked := invariant.discover free (.listSnsCanisters root) rfl
      rw [candidateSnsRoute]
      cases answer : client.listSnsCanisters st.calls root with
      | error err => exact ih _ asked
      | ok list =>
          dsimp only
          cases found : routeFromListSnsCanisters root target list with
          | none => exact ih _ asked
          | some route =>
              refine ⟨asked, ?_⟩
              rintro other ⟨⟩
              have here : AskedAfter (st.asked (.listSnsCanisters root)).calls st.calls
                  (.listSnsCanisters root) := List.prefix_rfl
              exact routeFromListSnsCanisters_permitted here answer found

theorem configuredSnsRoute_sound (free : policy = .auto)
    (invariant : ProbeInvariant client target policy cachedRoute audience st) :
    ProbeInvariant client target policy cachedRoute audience
        (configuredSnsRoute client target st).1 ∧
      ∀ route, (configuredSnsRoute client target st).2 = some route →
        Permitted client target cachedRoute (configuredSnsRoute client target st).1 route := by
  rw [configuredSnsRoute]
  cases client.configuredSnsRoot with
  | none => exact ⟨invariant, (fun route found => by cases found)⟩
  | some root =>
      have asked := invariant.discover free (.listSnsCanisters root) rfl
      dsimp only
      cases answer : client.listSnsCanisters st.calls root with
      | error err => exact ⟨asked, (fun route found => by cases found)⟩
      | ok list =>
          dsimp only
          split
          · refine ⟨asked, ?_⟩
            intro route found
            have here : AskedAfter (st.asked (.listSnsCanisters root)).calls st.calls
                (.listSnsCanisters root) := List.prefix_rfl
            exact routeFromListSnsCanisters_permitted here answer found
          · exact ⟨asked, (fun route found => by cases found)⟩

theorem discoverSnsRoute_sound (free : policy = .auto) (controllers : Option (List Principal))
    (invariant : ProbeInvariant client target policy cachedRoute audience st) :
    DiscoverySound client target policy cachedRoute audience
      (discoverSnsRoute client principalText target st controllers) := by
  have configured := configuredSnsRoute_sound free invariant
  rw [discoverSnsRoute]
  generalize configuredSnsRoute client target st = first at configured ⊢
  rcases first with ⟨after, _ | route⟩
  · have asked := configured.1.discover free .listDeployedSnses rfl
    dsimp only
    cases answer : client.listDeployedSnses after.calls with
    | error err => exact ⟨asked, (fun route ok => by cases ok)⟩
    | ok instances =>
        dsimp only
        split
        · rename_i route found
          obtain ⟨sns, member, named⟩ := List.exists_of_findSome?_eq_some found
          refine ⟨asked, ?_⟩
          rintro other ⟨⟩
          have here : AskedAfter (after.asked .listDeployedSnses).calls after.calls
              .listDeployedSnses := List.prefix_rfl
          exact frameworkRouteFromDeployedSns_permitted here answer member named
        · split
          · exact ⟨asked, (fun route ok => by cases ok)⟩
          · exact candidateSnsRoute_sound free _ _ asked
  · refine ⟨configured.1, ?_⟩
    rintro other ⟨⟩
    exact configured.2 route rfl

end Discovery

section Stages

variable {client : CyclesProbeClient} {principalText : Principal → String} {target : Principal}
  {policy : CyclesProbePolicy} {cachedRoute : Option CyclesProbeRoute}
  {audience : CyclesProbeAudience} {st : ProbeState}

theorem permitted_blackhole (st : ProbeState) (canisterId : Principal) :
    Permitted client target cachedRoute st (.blackhole canisterId) :=
  permitted_fixed st (fun _ same => by cases same) (fun _ _ same => by cases same)

theorem permitted_nnsRoot (st : ProbeState) : Permitted client target cachedRoute st .nnsRoot :=
  permitted_fixed st (fun _ same => by cases same) (fun _ _ same => by cases same)

theorem snsStage_sound (free : policy = .auto) (controllers : Option (List Principal))
    (invariant : ProbeInvariant client target policy cachedRoute audience st) :
    OutcomeSound client target policy cachedRoute audience
      (snsStage client principalText target audience controllers st) := by
  have discovered : DiscoverySound client target policy cachedRoute audience
      (discoverSnsRoute client principalText target st controllers) :=
    discoverSnsRoute_sound free controllers invariant
  rw [snsStage]
  generalize discoverSnsRoute client principalText target st controllers = result at discovered ⊢
  rcases result with ⟨after, err | (_ | route)⟩
  · exact failure_sound _ discovered.invariant
  · exact failure_sound _ discovered.invariant
  · exact finalRoute_sound discovered.invariant (discovered.permitted route rfl)

theorem nnsRootStage_sound (free : policy = .auto) (controllers : List Principal)
    (invariant : ProbeInvariant client target policy cachedRoute audience st) :
    OutcomeSound client target policy cachedRoute audience
      (nnsRootStage client principalText target audience controllers st) := by
  rw [nnsRootStage]
  split
  · apply tryRoute_sound invariant (permitted_nnsRoot st)
    intro after kept
    exact snsStage_sound free _ kept
  · exact snsStage_sound free _ invariant

theorem blackholeStage_sound (free : policy = .auto) (controllers probes : List Principal)
    (invariant : ProbeInvariant client target policy cachedRoute audience st) :
    OutcomeSound client target policy cachedRoute audience
      (blackholeStage client principalText target audience controllers probes st) := by
  induction probes generalizing st with
  | nil => exact nnsRootStage_sound free controllers invariant
  | cons canisterId rest ih =>
      rw [blackholeStage]
      split
      · apply tryRoute_sound invariant (permitted_blackhole st canisterId)
        intro after kept
        exact ih kept
      · exact ih invariant

theorem controllersStage_sound (free : policy = .auto)
    (invariant : ProbeInvariant client target policy cachedRoute audience st) :
    OutcomeSound client target policy cachedRoute audience
      (controllersStage client principalText target audience st) := by
  rw [controllersStage]
  split
  · exact blackholeStage_sound free _ _ invariant
  · have asked := invariant.discover free (.canisterInfoControllers target) rfl
    dsimp only
    split
    · exact blackholeStage_sound free _ _ asked
    · exact snsStage_sound free _ (asked.congr rfl rfl)

theorem cachedStage_sound (free : policy = .auto)
    (invariant : ProbeInvariant client target policy cachedRoute audience st) :
    OutcomeSound client target policy cachedRoute audience
      (cachedStage client principalText target cachedRoute audience st) := by
  cases cached : cachedRoute with
  | none =>
      rw [cached] at invariant
      exact controllersStage_sound free invariant
  | some route =>
      rw [cached] at invariant
      apply tryRoute_sound invariant
      · constructor
        · rintro own root swap rfl
          exact own root swap rfl
        · rintro root rfl
          exact Or.inl rfl
      · intro after kept
        exact controllersStage_sound free kept

theorem policyStage_sound
    (invariant : ProbeInvariant client target policy cachedRoute audience st) :
    OutcomeSound client target policy cachedRoute audience
      (policyStage client principalText policy target cachedRoute audience st) := by
  cases policy with
  | fixedBlackhole canisterId =>
      exact finalRoute_sound invariant (permitted_blackhole st canisterId)
  | auto => exact cachedStage_sound rfl invariant

theorem ownNnsRootStage_sound
    (invariant : ProbeInvariant client target policy cachedRoute audience st) :
    OutcomeSound client target policy cachedRoute audience
      (ownNnsRootStage client principalText policy target cachedRoute audience st) := by
  rw [ownNnsRootStage]
  split
  · apply tryRoute_sound invariant (permitted_nnsRoot st)
    intro after kept
    exact policyStage_sound kept
  · exact policyStage_sound invariant

theorem ownBlackholeStage_sound
    (invariant : ProbeInvariant client target policy cachedRoute audience st) :
    OutcomeSound client target policy cachedRoute audience
      (ownBlackholeStage client principalText policy target cachedRoute audience st) := by
  rw [ownBlackholeStage.eq_def]
  split
  · cases policy with
    | fixedBlackhole canisterId =>
        have sound := executeRoute_sound invariant (permitted_blackhole st target)
        dsimp only
        generalize executeRoute client target audience st (.blackhole target) = result at sound ⊢
        rcases result with ⟨after, err | (_ | success)⟩
        · exact failure_sound _ sound.invariant
        · exact ownNnsRootStage_sound sound.invariant
        · refine ⟨sound.invariant, ?_, (fun failure error => by cases error)⟩
          rintro other ⟨⟩
          exact sound.success success rfl
    | auto =>
        apply tryRoute_sound invariant (permitted_blackhole st target)
        intro after kept
        exact ownNnsRootStage_sound kept
  · exact ownNnsRootStage_sound invariant

theorem directStage_sound
    (invariant : ProbeInvariant client target policy cachedRoute audience st) :
    OutcomeSound client target policy cachedRoute audience
      (directStage client principalText policy target cachedRoute audience st) := by
  rw [directStage]
  split
  · apply tryRoute_sound invariant
    · exact permitted_fixed st (fun _ same => by cases same) (fun _ _ same => by cases same)
    · intro after kept
      exact ownBlackholeStage_sound kept
  · exact ownBlackholeStage_sound invariant

theorem start_invariant : ProbeInvariant client target policy cachedRoute audience .start where
  once := List.nodup_nil
  executed := rfl
  quiet _ _ call member := by cases member
  impersonal _ member := by cases member
  swaps _ root swap member := by cases member
  roots root member := by cases member

theorem probe_outcome :
    OutcomeSound client target policy cachedRoute audience
      (probeCyclesForAudience client principalText policy target cachedRoute audience) := by
  cases audience with
  | anyCanister => exact directStage_sound start_invariant
  | currentCaller =>
      have asked : ProbeInvariant client target policy cachedRoute .currentCaller
          (ProbeState.start.asked (.selfCycles target)) :=
        { once := List.nodup_nil
          executed := rfl
          quiet := by
            intro _ _ call member
            rw [List.mem_singleton.mp member]
            rfl
          impersonal := nofun
          swaps := fun _ _ _ member => by cases member
          roots := fun _ member => by cases member }
      simp only [probeCyclesForAudience]
      cases answer : client.selfCycles [] target with
      | none => exact directStage_sound asked
      | some cycles =>
          refine ⟨asked, ?_, (fun failure error => by cases error)⟩
          rintro success ⟨⟩
          exact ⟨rfl, rfl, rfl, answer⟩

end Stages

section Cached

/-- A route that a probe of the target returned, whose own cached route was returned so too. -/
inductive Learned (target : Principal) : CyclesProbeRoute → Prop where
  | probed {client : CyclesProbeClient} {principalText : Principal → String}
      {policy : CyclesProbePolicy} {cachedRoute : Option CyclesProbeRoute}
      {audience : CyclesProbeAudience} {success : CyclesProbeSuccess} {route : CyclesProbeRoute}
      (earlier : ∀ cached, cachedRoute = some cached → Learned target cached)
      (ran : (probeCyclesForAudience client principalText policy target cachedRoute audience).2 =
        .ok success)
      (found : success.route = some route) : Learned target route

theorem Learned.swap {target : Principal} {route : CyclesProbeRoute}
    (learned : Learned target route) :
    ∀ root swap, route = .snsSwap root swap → swap = target := by
  induction learned with
  | @probed client principalText policy cachedRoute audience success route _ ran found ih =>
      rintro root swap rfl
      have sound : OutcomeSound client target policy cachedRoute audience
          (probeCyclesForAudience client principalText policy target cachedRoute audience) :=
        probe_outcome
      have own : OwnCache target cachedRoute := by
        intro root swap cached
        exact ih _ cached root swap rfl
      have last := (sound.success success ran).last
      rw [found] at last
      exact sound.invariant.swaps own root swap (List.mem_of_getLast? last.symm)

def ProbeCall.subject : ProbeCall → Option Principal
  | .selfCycles target | .directCanisterStatus target | .blackholeCycles _ target
  | .nnsRootCycles target | .snsRootCycles _ target => some target
  | .snsSwapCycles swap => some swap
  | _ => none

def CyclesProbeClient.reported (client : CyclesProbeClient) (before : List ProbeCall) :
    ProbeCall → Option Nat
  | .selfCycles target => client.selfCycles before target
  | .directCanisterStatus target =>
      (client.directCanisterStatus before target).toOption.map DirectCanisterStatusObservation.cycles
  | .blackholeCycles probe target => (client.blackholeCycles before probe target).toOption
  | .nnsRootCycles target => (client.nnsRootCycles before target).toOption
  | .snsRootCycles root target => (client.snsRootCycles before root target).toOption
  | .snsSwapCycles swap => (client.snsSwapCycles before swap).toOption
  | _ => none

theorem reported_routeCycles {client : CyclesProbeClient} {target : Principal}
    {route : CyclesProbeRoute} {cycles : Nat}
    (read : client.routeCycles before target route = .ok cycles) :
    client.reported before (route.call target) = some cycles := by
  cases route with
  | directCanisterStatus =>
      simp only [CyclesProbeClient.routeCycles] at read
      simp only [CyclesProbeRoute.call, CyclesProbeClient.reported]
      cases answer : client.directCanisterStatus before target with
      | error err =>
          rw [answer] at read
          cases read
      | ok observation =>
          rw [answer] at read
          cases read
          rfl
  | blackhole _ | nnsRoot | snsRoot _ | snsSwap _ _ =>
      simp only [CyclesProbeClient.routeCycles] at read
      simp only [CyclesProbeRoute.call, CyclesProbeClient.reported, read, Except.toOption]

theorem call_subject {target : Principal} {route : CyclesProbeRoute}
    (own : ∀ root swap, route = .snsSwap root swap → swap = target) :
    (route.call target).subject = some target := by
  cases route with
  | snsSwap root swap => exact congrArg some (own root swap rfl)
  | directCanisterStatus | blackhole _ | nnsRoot | snsRoot _ => rfl

end Cached

/-- What holds of every probe, however its calls are answered. -/
structure ProbeSound (client : CyclesProbeClient) (principalText : Principal → String)
    (policy : CyclesProbePolicy) (target : Principal) (cachedRoute : Option CyclesProbeRoute)
    (audience : CyclesProbeAudience) (run : ProbeOutcome) : Prop where
  once : run.1.attemptedRoutes.Nodup
  executed : run.1.calls.filter ProbeCall.isExecution =
    run.1.attemptedRoutes.map (CyclesProbeRoute.call target)
  last : ∀ success, run.2 = .ok success → success.route = run.1.attemptedRoutes.getLast?
  quiet : ∀ canisterId, policy = .fixedBlackhole canisterId →
    ∀ call ∈ run.1.calls, call.isDiscovery = false
  /-- Neither the balance of the caller itself nor a status that others may not read. -/
  impersonal : audience = .anyCanister → ProbeCall.selfCycles target ∉ run.1.calls ∧
    ∀ success, run.2 = .ok success → ∃ route, success.route = some route ∧
      (route = .directCanisterStatus → ∃ before observation,
        run.1.calls = before ++ [.directCanisterStatus target] ∧
        client.directCanisterStatus before target = .ok observation ∧
        observation.statusVisibility = .everyone ∧ observation.cycles = success.cycles)
  own : (∀ route, cachedRoute = some route → Learned target route) →
    (∀ root swap, .snsSwap root swap ∈ run.1.attemptedRoutes → swap = target) ∧
    ∀ success, run.2 = .ok success → ∃ before call, run.1.calls = before ++ [call] ∧
      call.subject = some target ∧ client.reported before call = some success.cycles
  rooted : ∀ root, .snsRoot root ∈ run.1.attemptedRoutes →
    cachedRoute = some (.snsRoot root) ∨ NamedBy client target run.1.calls root

theorem probe_sound (client : CyclesProbeClient) (principalText : Principal → String)
    (policy : CyclesProbePolicy) (target : Principal) (cachedRoute : Option CyclesProbeRoute)
    (audience : CyclesProbeAudience) :
    ProbeSound client principalText policy target cachedRoute audience
      (probeCyclesForAudience client principalText policy target cachedRoute audience) := by
  have sound : OutcomeSound client target policy cachedRoute audience
      (probeCyclesForAudience client principalText policy target cachedRoute audience) :=
    probe_outcome
  generalize probeCyclesForAudience client principalText policy target cachedRoute audience = run
    at sound ⊢
  have invariant := sound.invariant
  refine
    { once := invariant.once
      executed := invariant.executed
      last := fun success ok => (sound.success success ok).last
      quiet := invariant.quiet
      impersonal := ?_
      own := ?_
      rooted := invariant.roots }
  · intro anyone
    refine ⟨invariant.impersonal anyone, ?_⟩
    intro success ok
    have read := (sound.success success ok).read
    rw [ReadLast] at read
    cases found : success.route with
    | none =>
        rw [found] at read
        rw [read.1] at anyone
        cases anyone
    | some route =>
        rw [found] at read
        obtain ⟨before, calls, reported, reusable⟩ := read
        refine ⟨route, rfl, ?_⟩
        rintro rfl
        obtain ⟨observation, answer, shared⟩ := reusable anyone rfl
        simp only [CyclesProbeClient.routeCycles, answer] at reported
        exact ⟨before, observation, calls, answer, shared, Except.ok.inj reported⟩
  · intro learned
    have own : OwnCache target cachedRoute := by
      intro root swap cached
      exact (learned _ cached).swap root swap rfl
    have swaps := invariant.swaps own
    refine ⟨swaps, ?_⟩
    intro success ok
    have finished := sound.success success ok
    have read := finished.read
    rw [ReadLast] at read
    cases found : success.route with
    | none =>
        rw [found] at read
        exact ⟨[], .selfCycles target, read.2.1, rfl, read.2.2⟩
    | some route =>
        rw [found] at read
        have last := finished.last
        rw [found] at last
        obtain ⟨before, calls, reported, _⟩ := read
        refine ⟨before, route.call target, calls, call_subject ?_, reported_routeCycles reported⟩
        rintro root swap rfl
        exact swaps root swap (List.mem_of_getLast? last.symm)

end JupiterSuite.CyclesProbe
