import CloudLens.Pricing.Derivation
import CloudLens.Pricing.Estimator

/-! Whether an estimate itemises what was asked for. An estimate without a price
for the usage itself is unknown, but a missing price of anything beside the usage
is passed over, and some services do not price everything that can be asked for. -/
namespace CloudLens.Pricing
open Library Library.Calendar

/-- What a request can ask for: the usage of the service, which is its runtime or
its capacity, and what comes beside it. -/
inductive EstimateComponent where
  | usage
  | storage
  | publicIp
  | egress
  | backup
  deriving DecidableEq

namespace EstimatedService

variable (kind : EstimatedService) (request : PreDeploymentEstimateRequest)

def chargedByRuntime : Bool := kind = .compute || kind = .database

def component : EstimateComponent → PricedComponent
  | .usage =>
    match kind with
    | .compute => computeUsage request
    | .database => databaseUsage request
    | .objectStorage => objectUsage request
    | .blockStorage => blockUsage request
    | .generic => standardUsage request
  | .storage => if kind = .database then databaseStorageVolume request else attachedBlockStorage request
  | .publicIp => publicIpv4Address request
  | .egress => if kind = .objectStorage then outboundDataTransfer request else outboundInternetTransfer request
  | .backup => backupSnapshotStorage request

def requests : EstimateComponent → Bool
  | .usage => true
  | .storage => kind.chargedByRuntime && 0 < request.storageGb
  | .publicIp => request.publicIp
  | .egress => 0 < request.dataTransferOutGb
  | .backup => 0 < request.backupStorageGb

def beside : List EstimateComponent :=
  match kind with
  | .compute => [.storage, .publicIp, .egress, .backup]
  | .database => [.storage]
  | .objectStorage => [.egress]
  | .blockStorage => []
  | .generic => []

end EstimatedService

def StandsFor (driver : CostDriverComponent) (component : PricedComponent) : Prop :=
  driver.category = component.category ∧ component.details ⊆ driver.drillableDetails

def Resolvable (pricing : PricingService) (component : PricedComponent) : Prop :=
  ∃ quote, pricing.resolvePriceAtDate component.query = .ok quote

/-- A missing price makes the estimate unknown, with a reason; else everything that
was asked for is a cost driver, and the drivers make up the monthly cost. -/
structure NoSilentZero (pricing : PricingService) (request : PreDeploymentEstimateRequest)
    (outcome : Except EstimateError PreDeploymentEstimateResult) : Prop where
  missing : (∃ c, request.kind.requests request c = true ∧ ¬ Resolvable pricing (request.kind.component request c)) →
    ∃ result, outcome = .ok result ∧ result.pricingStatus = .unknown ∧ ∃ reason, result.unavailabilityReason = some reason
  itemised : (∀ c, request.kind.requests request c = true → Resolvable pricing (request.kind.component request c)) →
    ∃ result, outcome = .ok result ∧
      (∀ c, request.kind.requests request c = true → ∃ driver ∈ result.costDrivers,
        StandsFor driver (request.kind.component request c)) ∧
      result.monthlyCost.amount = (result.costDrivers.map (fun d => d.monthlyCost.amount)).sum

namespace PreDeploymentEstimator

variable (estimator : PreDeploymentEstimator) (request : PreDeploymentEstimateRequest)

def charge (component : PricedComponent) : Option DriverData :=
  match estimator.pricingService.resolvePriceAtDate component.query with
  | .ok quote => (estimator.driverFor request.currency component quote).toOption
  | .error _ => none

def charges : List DriverData :=
  (.usage :: request.kind.beside).filterMap (fun c =>
    if request.kind.requests request c then estimator.charge request (request.kind.component request c) else none)

end PreDeploymentEstimator

def InBounds (drivers : List DriverData) : Prop :=
  ∀ driver ∈ drivers, 0 ≤ driverShare (drivers.map DriverData.amount).sum driver.amount ∧
    driverShare (drivers.map DriverData.amount).sum driver.amount ≤ 100

structure EverythingPriced (estimator : PreDeploymentEstimator) (request : PreDeploymentEstimateRequest) : Prop where
  covered : ∀ c, request.kind.requests request c = true → c ∈ EstimateComponent.usage :: request.kind.beside
  charged : ∀ c, request.kind.requests request c = true → (estimator.charge request (request.kind.component request c)).isSome
  shares : InBounds (estimator.charges request)

section Steps

variable {Failure Other α β : Type}

theorem bind_ok_iff {first : Except Failure α} {next : α → Except Failure β} {result : β} :
    (first >>= next) = .ok result ↔ ∃ value, first = .ok value ∧ next value = .ok result := by
  cases first with
  | error failure => exact ⟨nofun,nofun⟩
  | ok value =>
    constructor
    · exact fun returned => ⟨value,rfl,returned⟩
    · rintro ⟨other,same,returned⟩
      cases same
      exact returned

theorem mapM_ok_iff {step : α → Except Failure β} {items : List α} {results : List β} :
    items.mapM step = .ok results ↔ List.Forall₂ (fun item result => step item = .ok result) items results := by
  induction items generalizing results with
  | nil =>
    rw [List.mapM_nil,List.forall₂_nil_left_iff]
    exact ⟨fun returned => (Except.ok.inj returned).symm,fun empty => by rw [empty]; rfl⟩
  | cons first rest ih =>
    rw [List.mapM_cons,bind_ok_iff]
    constructor
    · rintro ⟨value,here,later⟩
      obtain ⟨values,others,equal⟩ := bind_ok_iff.mp later
      rw [← Except.ok.inj equal]
      exact List.Forall₂.cons here (ih.mp others)
    · intro each
      cases each with
      | cons here others => exact ⟨_,here,bind_ok_iff.mpr ⟨_,ih.mpr others,rfl⟩⟩

theorem related_of_mem {related : α → β → Prop} {items : List α} {results : List β} (each : List.Forall₂ related items results)
    {item : α} (member : item ∈ items) : ∃ result ∈ results, related item result := by
  induction each with
  | nil => cases member
  | cons here _ ih =>
    rcases List.mem_cons.mp member with rfl | later
    · exact ⟨_,List.mem_cons_self,here⟩
    · obtain ⟨result,inside,one⟩ := ih later
      exact ⟨result,List.mem_cons_of_mem _ inside,one⟩

theorem mapM_returns {step : α → Except Failure β} {items : List α} (each : ∀ item ∈ items, ∃ result, step item = .ok result) :
    ∃ results, items.mapM step = .ok results := by
  induction items with
  | nil => exact ⟨[],rfl⟩
  | cons first rest ih =>
    obtain ⟨here,others⟩ := List.forall_mem_cons.mp each
    obtain ⟨result,one⟩ := here
    obtain ⟨results,later⟩ := ih others
    exact ⟨result :: results,mapM_ok_iff.mpr (List.Forall₂.cons one (mapM_ok_iff.mp later))⟩

end Steps

section Charging

variable {estimator : PreDeploymentEstimator} {request : PreDeploymentEstimateRequest} {component : PricedComponent}
  {kind : EstimatedService}

theorem resolveSafeQuote_ok_iff {pricing : PricingService} {query : PriceQuery} {quote : ResolvedPriceQuote} :
    resolveSafeQuote pricing query = .ok quote ↔ pricing.resolvePriceAtDate query = .ok quote := by
  unfold resolveSafeQuote
  cases pricing.resolvePriceAtDate query with
  | ok found => exact ⟨fun same => congrArg Except.ok (Except.ok.inj same),fun same => congrArg Except.ok (Except.ok.inj same)⟩
  | error refusal => exact ⟨nofun,nofun⟩

theorem driverFor_shows {currency : String} {quote : ResolvedPriceQuote} {driver : DriverData}
    (returned : estimator.driverFor currency component quote = .ok driver) :
    driver.category = component.category ∧ driver.details = component.details := by
  obtain ⟨calculation,_,same⟩ := bind_ok_iff.mp returned
  rw [← Except.ok.inj same]
  exact ⟨rfl,rfl⟩

theorem charge_of_quote {quote : ResolvedPriceQuote} (found : estimator.pricingService.resolvePriceAtDate component.query = .ok quote) :
    estimator.charge request component = (estimator.driverFor request.currency component quote).toOption := by
  unfold PreDeploymentEstimator.charge
  rw [found]

theorem charge_shows {driver : DriverData} (charged : estimator.charge request component = some driver) :
    driver.category = component.category ∧ driver.details = component.details := by
  unfold PreDeploymentEstimator.charge at charged
  split at charged
  · rename_i quote _
    cases returned : estimator.driverFor request.currency component quote with
    | error failure =>
      rw [returned] at charged
      cases charged
    | ok other =>
      rw [returned] at charged
      rw [← Option.some.inj charged]
      exact driverFor_shows returned
  · cases charged

theorem resolvable_of_charge (charged : (estimator.charge request component).isSome) :
    Resolvable estimator.pricingService component := by
  unfold PreDeploymentEstimator.charge at charged
  split at charged
  · rename_i quote found
    exact ⟨quote,found⟩
  · cases charged

theorem attach_unwanted (unwanted : component.wanted = false) : estimator.attach request.currency component = .ok none := by
  unfold PreDeploymentEstimator.attach
  rw [unwanted]
  rfl

theorem attach_missing {refusal : String} (found : estimator.pricingService.resolvePriceAtDate component.query = .error refusal) :
    estimator.attach request.currency component = .ok none := by
  unfold PreDeploymentEstimator.attach resolveSafeQuote
  rw [found]
  split <;> rfl

theorem attach_quote {quote : ResolvedPriceQuote} (wanted : component.wanted = true)
    (found : estimator.pricingService.resolvePriceAtDate component.query = .ok quote) :
    estimator.attach request.currency component = (estimator.driverFor request.currency component quote).map some := by
  unfold PreDeploymentEstimator.attach
  rw [if_pos wanted,resolveSafeQuote_ok_iff.mpr found]

theorem attach_eq {added : Option DriverData} (returned : estimator.attach request.currency component = .ok added) :
    added = if component.wanted then estimator.charge request component else none := by
  cases wanted : component.wanted with
  | false =>
    rw [attach_unwanted wanted] at returned
    exact (Except.ok.inj returned).symm
  | true =>
    rw [if_pos rfl]
    cases found : estimator.pricingService.resolvePriceAtDate component.query with
    | error refusal =>
      rw [attach_missing found] at returned
      unfold PreDeploymentEstimator.charge
      rw [found]
      exact (Except.ok.inj returned).symm
    | ok quote =>
      rw [attach_quote wanted found] at returned
      rw [charge_of_quote found]
      cases driven : estimator.driverFor request.currency component quote with
      | error failure =>
        rw [driven] at returned
        cases returned
      | ok driver =>
        rw [driven] at returned
        exact (Except.ok.inj returned).symm

theorem attach_returns_iff : (∃ added, estimator.attach request.currency component = .ok added) ↔
    (component.wanted = true → Resolvable estimator.pricingService component → (estimator.charge request component).isSome) := by
  cases wanted : component.wanted with
  | false =>
    refine ⟨?_,fun _ => ⟨none,attach_unwanted wanted⟩⟩
    intro _ given
    cases given
  | true =>
    cases found : estimator.pricingService.resolvePriceAtDate component.query with
    | error refusal =>
      refine ⟨?_,fun _ => ⟨none,attach_missing found⟩⟩
      rintro _ _ ⟨quote,other⟩
      rw [found] at other
      cases other
    | ok quote =>
      rw [attach_quote wanted found,charge_of_quote found]
      cases estimator.driverFor request.currency component quote with
      | error failure =>
        constructor
        · rintro ⟨added,returned⟩
          cases returned
        · intro applied
          cases applied rfl ⟨quote,found⟩
      | ok driver => exact ⟨fun _ _ _ => rfl,fun _ => ⟨some driver,rfl⟩⟩

end Charging

section Drivers

variable {total : ℚ} {currency : String} {driver : DriverData}

structure Shows (driver : DriverData) (component : CostDriverComponent) : Prop where
  category : component.category = driver.category
  details : driver.details ⊆ component.drillableDetails
  nothingElse : ∀ detail ∈ component.drillableDetails, detail ∈ driver.details ∨ detail.1 = "unit"
  cost : component.monthlyCost.amount = Cost.roundCurrency driver.amount

theorem driverComponent_ok {component : CostDriverComponent} (returned : driverComponent total currency driver = .ok component) :
    (0 ≤ driverShare total driver.amount ∧ driverShare total driver.amount ≤ 100) ∧ Shows driver component := by
  unfold driverComponent at returned
  dsimp only at returned
  split at returned
  · rename_i bounded
    rw [← Except.ok.inj returned]
    exact ⟨bounded,rfl,List.Subset.refl _,fun _ inside => Or.inl inside,rfl⟩
  · cases returned

theorem driverComponent_returns (bounded : 0 ≤ driverShare total driver.amount ∧ driverShare total driver.amount ≤ 100) :
    ∃ component, driverComponent total currency driver = .ok component := by
  unfold driverComponent
  dsimp only
  rw [dif_pos bounded]
  exact ⟨_,rfl⟩

theorem rule12_ok {drivers : List DriverData} {components : List CostDriverComponent}
    (returned : rule12CostDriverDecomposition drivers currency = .ok components) :
    InBounds drivers ∧ List.Forall₂ Shows drivers components := by
  have each := mapM_ok_iff.mp returned
  refine ⟨?_,each.imp fun _ _ one => (driverComponent_ok one).2⟩
  intro driver member
  obtain ⟨component,_,one⟩ := related_of_mem each member
  exact (driverComponent_ok one).1

theorem rule12_returns {drivers : List DriverData} (bounded : InBounds drivers) :
    ∃ components, rule12CostDriverDecomposition drivers currency = .ok components :=
  mapM_returns fun driver member => driverComponent_returns (bounded driver member)

end Drivers

structure Itemisation (estimator : PreDeploymentEstimator) (request : PreDeploymentEstimateRequest)
    (outcome : Except EstimateError PreDeploymentEstimateResult) : Prop where
  known : ∀ result, outcome = .ok result → result.pricingStatus ≠ .unknown
  total : ∀ result, outcome = .ok result →
    result.monthlyCost.amount = (result.costDrivers.map (fun d => d.monthlyCost.amount)).sum
  shown : ∀ result, outcome = .ok result → List.Forall₂ Shows (estimator.charges request) result.costDrivers
  returns : (∃ result, outcome = .ok result) ↔ InBounds (estimator.charges request) ∧
    ∀ c ∈ EstimateComponent.usage :: request.kind.beside, request.kind.requests request c = true →
      Resolvable estimator.pricingService (request.kind.component request c) →
      (estimator.charge request (request.kind.component request c)).isSome

section Usage

variable {estimator : PreDeploymentEstimator} {request : PreDeploymentEstimateRequest} {quote : ResolvedPriceQuote}

theorem wanted_beside {kind : EstimatedService} {c : EstimateComponent} (beside : c ∈ kind.beside) :
    (kind.component request c).wanted = kind.requests request c := by
  cases kind <;> cases c <;> simp [EstimatedService.beside] at beside <;> rfl

theorem attached_charges {attached : List PricedComponent} {added : List (Option DriverData)}
    (returned : attached.mapM (estimator.attach request.currency) = .ok added) :
    added.reduceOption =
      attached.filterMap (fun component => if component.wanted then estimator.charge request component else none) := by
  have each := mapM_ok_iff.mp returned
  clear returned
  induction each with
  | nil => rfl
  | cons here _ ih =>
    rw [List.filterMap_cons,← attach_eq here,← ih]
    cases ‹Option DriverData› with
    | none => rfl
    | some driver => rfl

theorem charges_cons {driver : DriverData} (main : estimator.charge request (request.kind.component request .usage) = some driver) :
    estimator.charges request = driver :: (request.kind.beside.map (request.kind.component request)).filterMap
      (fun component => if component.wanted then estimator.charge request component else none) := by
  unfold PreDeploymentEstimator.charges
  rw [List.filterMap_cons,List.filterMap_map]
  have requested : request.kind.requests request .usage = true := rfl
  simp only [requested,if_true,main]
  congr 1
  apply List.filterMap_congr
  intro c beside
  rw [Function.comp_apply,wanted_beside beside]

theorem sum_of_shown {drivers : List DriverData} {components : List CostDriverComponent} (shown : List.Forall₂ Shows drivers components) :
    Cost.roundCurrency (components.map (fun d => d.monthlyCost.amount)).sum =
      (components.map (fun d => d.monthlyCost.amount)).sum := by
  have costs : components.map (fun d => d.monthlyCost.amount) = (drivers.map DriverData.amount).map (Decimal.quantize 2) := by
    induction shown with
    | nil => rfl
    | cons here _ ih =>
      rw [List.map_cons,List.map_cons,List.map_cons,ih,here.cost]
      rfl
  rw [costs]
  exact Decimal.quantize_of_atScale (Decimal.sum_quantize_atScale 2 _)

theorem successful_known {monthly hours : ℚ} {drivers : List CostDriverComponent} {primary : CostDerivation} :
    (buildSuccessfulResult request monthly hours drivers primary).pricingStatus ≠ .unknown := by
  unfold buildSuccessfulResult
  dsimp only
  split <;> decide

theorem charge_of_driven {component : PricedComponent} {driver : DriverData}
    (found : estimator.pricingService.resolvePriceAtDate component.query = .ok quote)
    (driven : estimator.driverFor request.currency component quote = .ok driver) :
    estimator.charge request component = some driver := by
  rw [charge_of_quote found,driven]
  rfl

theorem driven_of_charge {component : PricedComponent}
    (found : estimator.pricingService.resolvePriceAtDate component.query = .ok quote)
    (charged : (estimator.charge request component).isSome) :
    ∃ driver, estimator.driverFor request.currency component quote = .ok driver := by
  rw [charge_of_quote found] at charged
  cases driven : estimator.driverFor request.currency component quote with
  | error failure =>
    rw [driven] at charged
    cases charged
  | ok driver => exact ⟨driver,rfl⟩

theorem estimateUsage_ok_iff {usage : PricedComponent} {hours : ℚ} {attached : List PricedComponent}
    (found : estimator.pricingService.resolvePriceAtDate usage.query = .ok quote) (result : PreDeploymentEstimateResult) :
    estimator.estimateUsage request usage hours attached = .ok result ↔
      ∃ main, estimator.driverFor request.currency usage quote = .ok main ∧
        ∃ others, attached.mapM (estimator.attach request.currency) = .ok others ∧
          ∃ drivers, rule12CostDriverDecomposition (main :: others.reduceOption) request.currency = .ok drivers ∧
            buildSuccessfulResult request (drivers.map (fun d => d.monthlyCost.amount)).sum hours drivers main.derivation = result := by
  unfold PreDeploymentEstimator.estimateUsage
  rw [resolveSafeQuote_ok_iff.mpr found]
  simp only [bind_ok_iff]
  refine exists_congr fun main => and_congr_right fun _ => exists_congr fun others => and_congr_right fun _ =>
    exists_congr fun drivers => and_congr_right fun _ => ?_
  exact ⟨Except.ok.inj,congrArg Except.ok⟩

theorem estimateGeneric_ok_iff (found : estimator.pricingService.resolvePriceAtDate (standardUsage request).query = .ok quote)
    (result : PreDeploymentEstimateResult) : estimator.estimateGenericCatalogService request = .ok result ↔
      ∃ main, estimator.driverFor request.currency (standardUsage request) quote = .ok main ∧
        buildSuccessfulResult request main.amount 730 [standardDriver request quote main] main.derivation = result := by
  unfold PreDeploymentEstimator.estimateGenericCatalogService
  rw [resolveSafeQuote_ok_iff.mpr found]
  simp only [bind_ok_iff]
  exact exists_congr fun main => and_congr_right fun _ => ⟨Except.ok.inj,congrArg Except.ok⟩

theorem estimateUsage_itemises (hours : ℚ)
    (found : estimator.pricingService.resolvePriceAtDate (request.kind.component request .usage).query = .ok quote) :
    Itemisation estimator request (estimator.estimateUsage request (request.kind.component request .usage) hours
      (request.kind.beside.map (request.kind.component request))) := by
  have steps := @estimateUsage_ok_iff estimator request quote _ hours
    (request.kind.beside.map (request.kind.component request)) found
  refine ⟨?_,?_,?_,?_⟩
  · intro result returned
    obtain ⟨main,_,others,_,drivers,_,rfl⟩ := (steps result).mp returned
    exact successful_known
  · intro result returned
    obtain ⟨main,_,others,_,drivers,decomposed,rfl⟩ := (steps result).mp returned
    exact sum_of_shown (rule12_ok decomposed).2
  · intro result returned
    obtain ⟨main,driven,others,attached,drivers,decomposed,rfl⟩ := (steps result).mp returned
    rw [charges_cons (charge_of_driven found driven),← attached_charges attached]
    exact (rule12_ok decomposed).2
  · constructor
    · rintro ⟨result,returned⟩
      obtain ⟨main,driven,others,attached,drivers,decomposed,rfl⟩ := (steps result).mp returned
      have bounded := (rule12_ok decomposed).1
      rw [attached_charges attached,← charges_cons (charge_of_driven found driven)] at bounded
      refine ⟨bounded,?_⟩
      intro c priced requested resolvable
      rcases List.mem_cons.mp priced with rfl | beside
      · rw [charge_of_driven found driven]
        rfl
      · obtain ⟨added,_,one⟩ := related_of_mem (mapM_ok_iff.mp attached) (List.mem_map_of_mem beside)
        exact attach_returns_iff.mp ⟨added,one⟩ ((wanted_beside beside).trans requested) resolvable
    · rintro ⟨bounded,applied⟩
      obtain ⟨driver,driven⟩ := driven_of_charge found (applied .usage List.mem_cons_self rfl ⟨quote,found⟩)
      have each : ∀ component ∈ request.kind.beside.map (request.kind.component request),
          ∃ added, estimator.attach request.currency component = .ok added := by
        intro component inside
        obtain ⟨c,beside,rfl⟩ := List.mem_map.mp inside
        apply attach_returns_iff.mpr
        rw [wanted_beside beside]
        exact applied c (List.mem_cons_of_mem _ beside)
      obtain ⟨others,attached⟩ := mapM_returns each
      rw [charges_cons (charge_of_driven found driven),← attached_charges attached] at bounded
      obtain ⟨drivers,decomposed⟩ := rule12_returns bounded
      exact ⟨_,(steps _).mpr ⟨driver,driven,others,attached,drivers,decomposed,rfl⟩⟩

theorem estimateUsage_refused {usage : PricedComponent} {hours : ℚ} {attached : List PricedComponent} {unavailable : Unavailable}
    (refused : resolveSafeQuote estimator.pricingService usage.query = .error unavailable) :
    estimator.estimateUsage request usage hours attached = .ok (buildUnavailableResult request estimator.now unavailable) := by
  unfold PreDeploymentEstimator.estimateUsage
  rw [refused]

theorem estimateGeneric_refused {unavailable : Unavailable}
    (refused : resolveSafeQuote estimator.pricingService (standardUsage request).query = .error unavailable) :
    estimator.estimateGenericCatalogService request = .ok (buildUnavailableResult request estimator.now unavailable) := by
  unfold PreDeploymentEstimator.estimateGenericCatalogService
  rw [refused]

theorem inBounds_singleton (driver : DriverData) : InBounds [driver] := by
  intro only member
  rw [List.mem_singleton.mp member]
  have total : ([driver].map DriverData.amount).sum = driver.amount := List.sum_singleton
  rw [total]
  unfold driverShare
  split
  · rename_i positive
    rw [div_self positive.ne',one_mul]
    decide +kernel
  · exact ⟨le_refl 0,by norm_num⟩

theorem estimateGeneric_itemises (generic : request.kind = .generic)
    (found : estimator.pricingService.resolvePriceAtDate (standardUsage request).query = .ok quote) :
    Itemisation estimator request (estimator.estimateGenericCatalogService request) := by
  have usage : request.kind.component request .usage = standardUsage request := by
    rw [generic]
    rfl
  have beside : request.kind.beside = [] := by
    rw [generic]
    rfl
  have steps := estimateGeneric_ok_iff found
  have priced : estimator.pricingService.resolvePriceAtDate (request.kind.component request .usage).query = .ok quote := by
    rw [usage]
    exact found
  have charges : ∀ main, estimator.driverFor request.currency (standardUsage request) quote = .ok main →
      estimator.charge request (request.kind.component request .usage) = some main ∧ estimator.charges request = [main] := by
    intro main driven
    have charged : estimator.charge request (request.kind.component request .usage) = some main := by
      rw [usage]
      exact charge_of_driven found driven
    refine ⟨charged,?_⟩
    rw [charges_cons charged,beside]
    rfl
  refine ⟨?_,?_,?_,?_⟩
  · intro result returned
    obtain ⟨main,_,rfl⟩ := (steps result).mp returned
    exact successful_known
  · intro result returned
    obtain ⟨main,_,rfl⟩ := (steps result).mp returned
    exact List.sum_singleton.symm
  · intro result returned
    obtain ⟨main,driven,rfl⟩ := (steps result).mp returned
    rw [(charges main driven).2]
    refine List.Forall₂.cons ⟨rfl,List.subset_append_left _ _,?_,rfl⟩ List.Forall₂.nil
    intro detail inside
    rcases List.mem_append.mp inside with own | unit
    · exact Or.inl own
    · rw [List.mem_singleton.mp unit]
      exact Or.inr rfl
  · constructor
    · rintro ⟨result,returned⟩
      obtain ⟨main,driven,rfl⟩ := (steps result).mp returned
      obtain ⟨charged,alone⟩ := charges main driven
      rw [alone]
      refine ⟨inBounds_singleton main,?_⟩
      intro c listed _ _
      rw [beside] at listed
      rw [List.mem_singleton.mp listed,charged]
      rfl
    · rintro ⟨_,applied⟩
      obtain ⟨driver,driven⟩ := driven_of_charge priced (applied .usage List.mem_cons_self rfl ⟨quote,priced⟩)
      rw [usage] at driven
      exact ⟨_,(steps _).mpr ⟨driver,driven,rfl⟩⟩

end Usage

section Estimates

variable {pricing : PricingService} {engine : CalculationContext} {now : Instant} {request : PreDeploymentEstimateRequest}

theorem create_estimate (pricing : PricingService) (engine : CalculationContext) (now : Instant)
    (request : PreDeploymentEstimateRequest) : (PreDeploymentEstimator.create pricing engine now).estimate request =
      match request.kind with
      | .compute => (PreDeploymentEstimator.create pricing engine now).estimateCompute request
      | .database => (PreDeploymentEstimator.create pricing engine now).estimateDatabase request
      | .objectStorage => (PreDeploymentEstimator.create pricing engine now).estimateObjectStorage request
      | .blockStorage => (PreDeploymentEstimator.create pricing engine now).estimateBlockStorage request
      | .generic => (PreDeploymentEstimator.create pricing engine now).estimateGenericCatalogService request := rfl

theorem estimate_unavailable (missing : ¬ Resolvable pricing (request.kind.component request .usage)) :
    ∃ unavailable, (PreDeploymentEstimator.create pricing engine now).estimate request =
      .ok (buildUnavailableResult request now unavailable) := by
  have refused : ∃ unavailable, resolveSafeQuote pricing (request.kind.component request .usage).query = .error unavailable := by
    cases resolved : resolveSafeQuote pricing (request.kind.component request .usage).query with
    | error unavailable => exact ⟨unavailable,rfl⟩
    | ok quote => exact absurd ⟨quote,resolveSafeQuote_ok_iff.mp resolved⟩ missing
  obtain ⟨unavailable,refused⟩ := refused
  refine ⟨unavailable,?_⟩
  rw [create_estimate]
  cases kind : request.kind with
  | compute =>
    rw [kind] at refused
    exact estimateUsage_refused refused
  | database =>
    rw [kind] at refused
    exact estimateUsage_refused refused
  | objectStorage =>
    rw [kind] at refused
    exact estimateUsage_refused refused
  | blockStorage =>
    rw [kind] at refused
    exact estimateUsage_refused refused
  | generic =>
    rw [kind] at refused
    exact estimateGeneric_refused refused

theorem estimate_itemises (resolvable : Resolvable pricing (request.kind.component request .usage)) :
    Itemisation (PreDeploymentEstimator.create pricing engine now) request
      ((PreDeploymentEstimator.create pricing engine now).estimate request) := by
  obtain ⟨quote,found⟩ := resolvable
  have byUsage : ∀ hours, Itemisation (PreDeploymentEstimator.create pricing engine now) request
      ((PreDeploymentEstimator.create pricing engine now).estimateUsage request (request.kind.component request .usage) hours
        (request.kind.beside.map (request.kind.component request))) := fun hours => estimateUsage_itemises hours found
  rw [create_estimate]
  cases kind : request.kind with
  | compute =>
    rw [kind] at byUsage
    exact byUsage request.hours
  | database =>
    rw [kind] at byUsage
    exact byUsage request.hours
  | objectStorage =>
    rw [kind] at byUsage
    exact byUsage 730
  | blockStorage =>
    rw [kind] at byUsage
    exact byUsage 730
  | generic =>
    rw [kind] at found
    exact estimateGeneric_itemises kind found

theorem component_category (kind : EstimatedService) (request : PreDeploymentEstimateRequest) (c : EstimateComponent) :
    (kind.component request c).category =
      match c with
      | .usage =>
        match kind with
        | .compute => .compute
        | .database => .database
        | .objectStorage => .storage
        | .blockStorage => .storage
        | .generic => .other
      | .storage => .storage
      | .publicIp => .network
      | .egress => .network
      | .backup => .backup := by
  cases kind <;> cases c <;> rfl

theorem unpriced_category {kind : EstimatedService} {asked priced : EstimateComponent}
    (requested : kind.requests request asked = true) (unpriced : asked ∉ EstimateComponent.usage :: kind.beside)
    (inside : priced ∈ EstimateComponent.usage :: kind.beside)
    (same : (kind.component request asked).category = (kind.component request priced).category) :
    kind = .objectStorage ∧ asked = .publicIp ∧ priced = .egress := by
  rw [component_category,component_category] at same
  cases kind <;> cases asked <;> simp [EstimatedService.beside] at unpriced <;>
    simp [EstimatedService.requests,EstimatedService.chargedByRuntime] at requested <;>
    cases priced <;> simp_all [EstimatedService.beside]

theorem covered_of_shown {asked priced : EstimateComponent} {driver : DriverData} {component : CostDriverComponent}
    (requested : request.kind.requests request asked = true) (inside : priced ∈ EstimateComponent.usage :: request.kind.beside)
    (category : driver.category = (request.kind.component request priced).category)
    (details : driver.details = (request.kind.component request priced).details) (shows : Shows driver component)
    (stands : StandsFor component (request.kind.component request asked)) :
    asked ∈ EstimateComponent.usage :: request.kind.beside := by
  by_contra unpriced
  have same : (request.kind.component request asked).category = (request.kind.component request priced).category := by
    rw [← stands.1,shows.category,category]
  obtain ⟨kind,rfl,rfl⟩ := unpriced_category requested unpriced inside same
  rw [kind] at details stands
  have address : ("public_ip", Detail.flag true) ∈ component.drillableDetails := stands.2 List.mem_cons_self
  rcases shows.nothingElse _ address with own | unit
  · rw [details] at own
    have key : "public_ip" = "egress_gb" := congrArg Prod.fst (List.mem_singleton.mp own)
    revert key
    decide
  · revert unit
    decide

theorem mem_charges {estimator : PreDeploymentEstimator} {driver : DriverData} : driver ∈ estimator.charges request ↔
    ∃ c ∈ EstimateComponent.usage :: request.kind.beside, request.kind.requests request c = true ∧
      estimator.charge request (request.kind.component request c) = some driver := by
  unfold PreDeploymentEstimator.charges
  rw [List.mem_filterMap]
  refine exists_congr fun c => and_congr_right fun _ => ?_
  cases request.kind.requests request c with
  | true => simp
  | false => simp

end Estimates

/-- For every catalogue, engine and request: the estimate of the service is unknown
for a missing price and itemised otherwise exactly when its usage has no price, or
everything that was asked for is priced. -/
theorem no_silent_zero_iff (pricing : PricingService) (engine : CalculationContext) (now : Instant)
    (request : PreDeploymentEstimateRequest) :
    NoSilentZero pricing request ((PreDeploymentEstimator.create pricing engine now).estimate request) ↔
      ¬ Resolvable pricing (request.kind.component request .usage) ∨
        EverythingPriced (PreDeploymentEstimator.create pricing engine now) request := by
  by_cases usage : Resolvable pricing (request.kind.component request .usage)
  · have itemises : Itemisation (PreDeploymentEstimator.create pricing engine now) request
        ((PreDeploymentEstimator.create pricing engine now).estimate request) := estimate_itemises usage
    refine Iff.trans ⟨?_,?_⟩ (or_iff_right (not_not.mpr usage)).symm
    · intro honest
      have resolvable : ∀ c, request.kind.requests request c = true → Resolvable pricing (request.kind.component request c) := by
        intro c requested
        by_contra missing
        obtain ⟨result,returned,unknown,_⟩ := honest.missing ⟨c,requested,missing⟩
        exact itemises.known result returned unknown
      obtain ⟨result,returned,stands,_⟩ := honest.itemised resolvable
      have covered : ∀ c, request.kind.requests request c = true → c ∈ EstimateComponent.usage :: request.kind.beside := by
        intro c requested
        obtain ⟨component,listed,stand⟩ := stands c requested
        obtain ⟨driver,charged,shows⟩ := related_of_mem (itemises.shown result returned).flip listed
        obtain ⟨priced,inside,_,charge⟩ := mem_charges.mp charged
        obtain ⟨category,details⟩ := charge_shows charge
        exact covered_of_shown requested inside category details shows stand
      obtain ⟨shares,applied⟩ := itemises.returns.mp ⟨result,returned⟩
      exact ⟨covered,fun c requested => applied c (covered c requested) requested (resolvable c requested),shares⟩
    · intro priced
      refine ⟨?_,fun _ => ?_⟩
      · rintro ⟨c,requested,missing⟩
        exact absurd (resolvable_of_charge (priced.charged c requested)) missing
      · obtain ⟨result,returned⟩ := itemises.returns.mpr ⟨priced.shares,fun c _ requested _ => priced.charged c requested⟩
        refine ⟨result,returned,?_,itemises.total result returned⟩
        intro c requested
        obtain ⟨driver,charge⟩ := Option.isSome_iff_exists.mp (priced.charged c requested)
        have charged := mem_charges.mpr ⟨c,priced.covered c requested,requested,charge⟩
        obtain ⟨component,listed,shows⟩ := related_of_mem (itemises.shown result returned) charged
        obtain ⟨category,details⟩ := charge_shows charge
        refine ⟨component,listed,shows.category.trans category,?_⟩
        rw [← details]
        exact shows.details
  · have unknown : ∃ unavailable, (PreDeploymentEstimator.create pricing engine now).estimate request =
        .ok (buildUnavailableResult request now unavailable) := estimate_unavailable usage
    obtain ⟨unavailable,result⟩ := unknown
    refine iff_of_true ?_ (Or.inl usage)
    rw [result]
    refine ⟨fun _ => ⟨_,rfl,rfl,_,rfl⟩,fun all => absurd (all .usage rfl) usage⟩

theorem awsName_given : "aws" ≠ "" := by decide

def machineWithDisk : PreDeploymentEstimateRequest where
  provider := "aws"
  service := "AmazonEC2"
  region := "us-east-1"
  instanceType := some "t3.xlarge"
  storageGb := 100
  storageType := none
  publicIp := false
  dataTransferOutGb := 0
  runtimeScheduleType := .continuous247
  customRuntimeHours := none
  databaseEngine := none
  backupStorageGb := 0
  targetCurrency := "USD"
  tenantId := none
  providerGiven := awsName_given
  serviceGiven := by decide
  regionGiven := by decide
  storageNonneg := hundred_nonneg
  transferNonneg := free_nonneg
  hoursBounded := by simp
  backupNonneg := free_nonneg
  currencyLength := Cost.dollars_length

def machinesOnly : PricingService where
  resolvePriceAtDate := fun query =>
    if query.serviceSku = some "AWS-EC2-T3-XLARGE-US-EAST" then .ok hourlyQuote else .error "No pricing record."
  latestRecord := fun _ _ _ => none

/-- The estimate is 730 dollars for the machine alone: the storage costs nothing. -/
theorem unpriced_storage_left_out :
    ((PreDeploymentEstimator.create machinesOnly emptyContext 0).estimate machineWithDisk).toOption.map (fun result =>
      (result.pricingStatus, result.monthlyCost.amount, result.costDrivers.map CostDriverComponent.category)) =
      some (.estimated, 730, [.compute]) ∧
    ¬ NoSilentZero machinesOnly machineWithDisk
      ((PreDeploymentEstimator.create machinesOnly emptyContext 0).estimate machineWithDisk) := by
  have kind : machineWithDisk.kind = .compute := by decide +kernel
  have machine : Resolvable machinesOnly (machineWithDisk.kind.component machineWithDisk .usage) := by
    rw [kind]
    have sku : (computeUsage machineWithDisk).query.serviceSku = some "AWS-EC2-T3-XLARGE-US-EAST" := by decide +kernel
    exact ⟨hourlyQuote,if_pos sku⟩
  refine ⟨by decide +kernel,fun honest => ?_⟩
  have storage : machineWithDisk.kind.requests machineWithDisk .storage = true ∧
      ¬ Resolvable machinesOnly (machineWithDisk.kind.component machineWithDisk .storage) := by
    rw [kind]
    have sku : (attachedBlockStorage machineWithDisk).query.serviceSku ≠ some "AWS-EC2-T3-XLARGE-US-EAST" := by decide +kernel
    refine ⟨by decide +kernel,?_⟩
    rintro ⟨quote,found⟩
    cases found.symm.trans (if_neg sku)
  obtain ⟨result,returned,unknown,_⟩ := honest.missing ⟨.storage,storage⟩
  exact (estimate_itemises machine).known result returned unknown

end CloudLens.Pricing
