import Pyroscope.QueryBackend.Request
import Mathlib.Data.Finset.Basic

set_option autoImplicit false

/-! # `BlockReader.Invoke`: tenant filtering and dispatch

After validation, `Invoke` builds the set of the request's tenants and walks the blocks of the
query plan. For each block, `filterNotOwnedDatasets` keeps the datasets whose tenant (read from
the block's string table) is in the set and records an error naming every other one; the block's
`Datasets` are replaced by the kept ones, a non-nil error increments
`datasetTenantIsolationFailure`, and a block with datasets left is handed to `block.NewObject`
and run as one work unit. The loop's error variable is overwritten by `g.Wait()`, so only the
work units decide the result.

The string table is indexed without a bounds check: a dataset's tenant index, and for a dataset
of another tenant its name index, must lie in the table, or `Invoke` panics. On requests whose
datasets are all readable in this sense, the units launched are exactly the blocks with an
owned dataset, each restricted to its owned datasets in order (`invoke_launches_owned`); a
request with an unreadable dataset panics (`invoke_panics_iff`).

The assignment `md.Datasets, err = ...` writes through the `*BlockMeta` pointer of the caller's
plan, so `Invoke` also changes its argument: the last section follows the request it leaves
behind. -/

namespace Pyroscope.QueryBackend

open Pyroscope.Go

/-! ## The code -/

/-- `tenantMap`: the set of `req.Tenant`, built by inserting each tenant. -/
def tenantMap (tenants : List String) : Finset String :=
  tenants.foldl (fun m t => insert t m) ∅

/-- The text of the error `filterNotOwnedDatasets` records for a dataset of another tenant. -/
def isolationError (name tenant : String) : String :=
  "dataset \"" ++ name ++ "\" belongs to tenant \"" ++ tenant ++ "\""

/-- One iteration of `filterNotOwnedDatasets`: keep an owned dataset, or record the error
    naming a foreign one. The accumulator holds the kept datasets and the errors so far. -/
def filterStep (b : BlockMeta) (tenantMap : Finset String) (acc : List Dataset × List String)
    (dataset : Dataset) : Except RuntimeError (List Dataset × List String) :=
  index b.stringTable dataset.tenant >>= fun datasetTenant =>
    if datasetTenant ∈ tenantMap then .ok (acc.1 ++ [dataset], acc.2)
    else index b.stringTable dataset.name >>= fun name =>
      .ok (acc.1, acc.2 ++ [isolationError name datasetTenant])

/-- `filterNotOwnedDatasets`: the owned datasets in order, and the errors of the others (the
    multierror is nil exactly when the list is empty). -/
def filterNotOwnedDatasets (b : BlockMeta) (tenantMap : Finset String) :
    Except RuntimeError (List Dataset × List String) :=
  b.datasets.foldlM (filterStep b tenantMap) ([], [])

/-- What the loop of `Invoke` has done: the block metadata handed to `block.NewObject` (one work
    unit each), in order, and the increments of `datasetTenantIsolationFailure`. -/
structure Dispatch where
  units : List BlockMeta
  isolationFailures : Nat
  deriving DecidableEq, Repr

/-- One iteration of the loop over `req.QueryPlan.Root.Blocks`. -/
def dispatchStep (tenantMap : Finset String) (st : Dispatch) (md : BlockMeta) :
    Except RuntimeError Dispatch :=
  filterNotOwnedDatasets md tenantMap >>= fun (datasets, errs) =>
    let st := if errs.isEmpty then st else { st with isolationFailures := st.isolationFailures + 1 }
    if datasets.isEmpty then .ok st else .ok { st with units := st.units ++ [{ md with datasets }] }

/-- The collaborators `Invoke` calls: the selector parser, the error group's `Wait` over the work
    units launched for the given blocks (the first error a unit returned, a unit's panic
    included since `util.RecoverPanic` turns it into one), and the aggregator's `response`. -/
structure Collaborators (M R : Type) where
  parseMetricSelector : String → Except String (List M)
  wait : Request M → List BlockMeta → Option String
  response : Request M → List BlockMeta → Except String R

/-- The end of `Invoke` once its work units are launched: `g.Wait()` overwrites the loop's
    error, so the result is the group's first error, or else `agg.response()`. -/
def Collaborators.finish {M R : Type} (env : Collaborators M R) (r : Request M)
    (units : List BlockMeta) : Except String R :=
  match env.wait r units with
  | some e => .error e
  | none => env.response r units

/-- How a call of `Invoke` ends: a runtime panic in its own code, the `InvalidArgument` status of
    a rejected request, or the launched work units with the metric increments and the result. -/
inductive Outcome (R : Type)
  | panicked (e : RuntimeError)
  | invalidArgument (msg : String)
  | launched (units : List BlockMeta) (isolationFailures : Nat) (result : Except String R)

/-- `req.QueryPlan.Root.Blocks`, both pointers dereferenced. -/
def InvokeRequest.rootBlocks (req : InvokeRequest) : Except RuntimeError (List BlockMeta) :=
  match req.queryPlan with
  | some plan => plan.rootBlocks
  | none => .error .nilPointerDereference

/-- `BlockReader.Invoke`. -/
def invoke {M R : Type} (env : Collaborators M R) (req : InvokeRequest) : Outcome R :=
  match validateRequest env.parseMetricSelector req with
  | .error p => .panicked p
  | .ok (.error e) => .invalidArgument ("request validation failed: " ++ e)
  | .ok (.ok r) =>
    match req.rootBlocks >>= fun blocks =>
        blocks.foldlM (dispatchStep (tenantMap req.tenant)) ⟨[], 0⟩ with
    | .error p => .panicked p
    | .ok st => .launched st.units st.isolationFailures (env.finish r st.units)

/-- What one iteration of the loop writes into the block: `md.Datasets` becomes the kept
    datasets, whether or not an error comes with them. -/
def writeStep (tenantMap : Finset String) (md : BlockMeta) : Except RuntimeError BlockMeta :=
  filterNotOwnedDatasets md tenantMap >>= fun (datasets, _) => .ok { md with datasets }

/-- The plan's blocks as the loop leaves them: every block it gets past rewritten; from a block
    whose filter panics on, the blocks as they were, and the panic. -/
def writeBlocks (tenantMap : Finset String) :
    List BlockMeta → List BlockMeta × Option RuntimeError
  | [] => ([], none)
  | md :: mds =>
    match writeStep tenantMap md with
    | .error p => (md :: mds, some p)
    | .ok md' => (md' :: (writeBlocks tenantMap mds).1, (writeBlocks tenantMap mds).2)

/-- The request with the blocks of its plan's root replaced. -/
def InvokeRequest.withRootBlocks (req : InvokeRequest) (blocks : List BlockMeta) :
    InvokeRequest :=
  { req with queryPlan := req.queryPlan.map fun plan => ⟨plan.root.map fun _ => ⟨blocks⟩⟩ }

/-- The caller's request once `Invoke` has returned or panicked: validation only reads it, and
    the loop over an accepted request's blocks rewrites each block it gets past. -/
def invokeRequestAfter {M R : Type} (env : Collaborators M R) (req : InvokeRequest) :
    InvokeRequest :=
  match validateRequest env.parseMetricSelector req with
  | .ok (.ok _) => req.withRootBlocks (writeBlocks (tenantMap req.tenant) (planBlocks req)).1
  | _ => req

/-! ## Owned datasets

The reading of the loop in the spec's words: a dataset is owned when its tenant, read from its
block's string table, is one of the request's tenants. -/

/-- Whether the dataset's tenant is one of `tenants`. -/
def Owned (tenants : List String) (b : BlockMeta) (d : Dataset) : Bool :=
  match lookup b.stringTable d.tenant with
  | some t => decide (t ∈ tenants)
  | none => false

@[simp] theorem owned_eq_true_iff {tenants : List String} {b : BlockMeta} {d : Dataset} :
    Owned tenants b d = true ↔ ∃ t, lookup b.stringTable d.tenant = some t ∧ t ∈ tenants := by
  unfold Owned
  cases lookup b.stringTable d.tenant <;> simp

/-- Whether `filterNotOwnedDatasets` reads the dataset without a panic: its tenant index lies in
    the string table and, when that tenant is not one of `tenants`, so does its name index. -/
def Readable (tenants : List String) (b : BlockMeta) (d : Dataset) : Bool :=
  match lookup b.stringTable d.tenant with
  | some t => decide (t ∈ tenants) || (lookup b.stringTable d.name).isSome
  | none => false

/-- The error text recorded for a dataset of another tenant, naming it and its tenant. -/
def foreignMessage (b : BlockMeta) (d : Dataset) : String :=
  isolationError ((lookup b.stringTable d.name).getD "") ((lookup b.stringTable d.tenant).getD "")

/-- The work units the plan should give: each block with an owned dataset, in plan order,
    carrying exactly its owned datasets in their order. -/
def ownedUnits (tenants : List String) (blocks : List BlockMeta) : List BlockMeta :=
  (blocks.filter fun b => b.datasets.any (Owned tenants b)).map fun b =>
    { b with datasets := b.datasets.filter (Owned tenants b) }

/-- The block restricted to its datasets of `tenants`. -/
def ownedPart (tenants : List String) (b : BlockMeta) : BlockMeta :=
  { b with datasets := b.datasets.filter (Owned tenants b) }

theorem ownedUnits_eq (tenants : List String) (blocks : List BlockMeta) :
    ownedUnits tenants blocks =
      (blocks.filter fun b => b.datasets.any (Owned tenants b)).map (ownedPart tenants) := rfl

/-- The number of blocks with a dataset of another tenant. -/
def foreignBlocks (tenants : List String) (blocks : List BlockMeta) : Nat :=
  (blocks.filter fun b => !b.datasets.all (Owned tenants b)).length

@[simp] theorem ownedUnits_append (tenants : List String) (xs ys : List BlockMeta) :
    ownedUnits tenants (xs ++ ys) = ownedUnits tenants xs ++ ownedUnits tenants ys := by
  simp [ownedUnits]

@[simp] theorem foreignBlocks_append (tenants : List String) (xs ys : List BlockMeta) :
    foreignBlocks tenants (xs ++ ys) = foreignBlocks tenants xs + foreignBlocks tenants ys := by
  simp [foreignBlocks]

theorem mem_foldl_insert (t : String) (tenants : List String) (m : Finset String) :
    t ∈ tenants.foldl (fun m t => insert t m) m ↔ t ∈ m ∨ t ∈ tenants := by
  induction tenants generalizing m with
  | nil => simp
  | cons u us ih => simp [ih, or_left_comm, or_assoc]

@[simp] theorem mem_tenantMap {tenants : List String} {t : String} :
    t ∈ tenantMap tenants ↔ t ∈ tenants := by
  simp [tenantMap, mem_foldl_insert]

/-! ## The filter loop -/

section Filter

variable {tenants : List String} {b : BlockMeta} {d : Dataset}

/-- A readable dataset of another tenant has both its tenant and its name in the string
    table. -/
theorem foreign_of_readable (h : Readable tenants b d = true) (hown : Owned tenants b d = false) :
    ∃ n t, lookup b.stringTable d.name = some n ∧ lookup b.stringTable d.tenant = some t ∧
      t ∉ tenants := by
  unfold Readable at h
  unfold Owned at hown
  cases ht : lookup b.stringTable d.tenant with
  | none => simp [ht] at h
  | some t =>
    have htn : t ∉ tenants := by simpa [ht] using hown
    obtain ⟨n, hn⟩ := Option.isSome_iff_exists.1 (by simpa [ht, htn] using h)
    exact ⟨n, t, hn, rfl, htn⟩

theorem filterStep_of_readable (acc : List Dataset × List String)
    (h : Readable tenants b d = true) :
    filterStep b (tenantMap tenants) acc d =
      .ok (if Owned tenants b d then (acc.1 ++ [d], acc.2)
        else (acc.1, acc.2 ++ [foreignMessage b d])) := by
  cases ho : Owned tenants b d
  · obtain ⟨n, t, hn, ht, htn⟩ := foreign_of_readable h ho
    simp [filterStep, foreignMessage, index_eq_ok ht, index_eq_ok hn, htn, hn, ht]
  · obtain ⟨t, ht, htm⟩ := owned_eq_true_iff.1 ho
    simp [filterStep, index_eq_ok ht, htm]

theorem filterStep_of_not_readable (acc : List Dataset × List String)
    (h : Readable tenants b d = false) : ∃ p, filterStep b (tenantMap tenants) acc d = .error p := by
  unfold Readable at h
  cases ht : lookup b.stringTable d.tenant with
  | none => exact ⟨_, by rw [filterStep, index_eq_error ht]; rfl⟩
  | some t =>
    have hm : t ∉ tenants := by simp_all
    have hn : lookup b.stringTable d.name = none := by simp_all
    exact ⟨_, by simp only [filterStep, index_eq_ok ht, index_eq_error hn, except_ok_bind,
      mem_tenantMap, hm, if_false]; rfl⟩

theorem foldlM_filterStep (ds : List Dataset) (acc : List Dataset × List String)
    (h : ∀ d ∈ ds, Readable tenants b d = true) :
    ds.foldlM (filterStep b (tenantMap tenants)) acc =
      .ok (acc.1 ++ ds.filter (Owned tenants b),
        acc.2 ++ (ds.filter fun d => !Owned tenants b d).map (foreignMessage b)) := by
  induction ds generalizing acc with
  | nil => simp [pure, Except.pure]
  | cons d ds ih =>
    rw [List.foldlM_cons, filterStep_of_readable acc (h d (.head _)), except_ok_bind,
      ih _ fun d' hd' => h d' (.tail _ hd')]
    cases hd : Owned tenants b d <;> simp [hd, List.filter_cons]

/-- On a block whose datasets are all readable, the filter keeps the owned datasets in order
    and records one message for each other one, in order. -/
theorem filterNotOwnedDatasets_eq (h : ∀ d ∈ b.datasets, Readable tenants b d = true) :
    filterNotOwnedDatasets b (tenantMap tenants) =
      .ok (b.datasets.filter (Owned tenants b),
        (b.datasets.filter fun d => !Owned tenants b d).map (foreignMessage b)) := by
  simpa using foldlM_filterStep b.datasets ([], []) h

/-- The filter panics exactly on a block with an unreadable dataset. -/
theorem filterNotOwnedDatasets_panics_iff :
    (∃ p, filterNotOwnedDatasets b (tenantMap tenants) = .error p) ↔
      ∃ d ∈ b.datasets, Readable tenants b d = false :=
  foldlM_error_iff (fun acc d h => ⟨_, @filterStep_of_readable tenants b d acc h⟩)
    (fun acc d h => @filterStep_of_not_readable tenants b d acc h) _ _

/-- The isolation errors of a block whose datasets are all readable, exactly: one per dataset of
    another tenant, in the block's order, each naming that dataset and its tenant as the string
    table gives them; the owned datasets are kept in order. -/
theorem filterNotOwnedDatasets_errors (h : ∀ d ∈ b.datasets, Readable tenants b d = true) :
    filterNotOwnedDatasets b (tenantMap tenants) =
        .ok (b.datasets.filter (Owned tenants b),
          (b.datasets.filter fun d => !Owned tenants b d).map (foreignMessage b)) ∧
      ∀ d ∈ b.datasets, Owned tenants b d = false → ∃ n t, lookup b.stringTable d.name = some n ∧
        lookup b.stringTable d.tenant = some t ∧ t ∉ tenants ∧
        foreignMessage b d = isolationError n t := by
  refine ⟨filterNotOwnedDatasets_eq h, fun d hd hown => ?_⟩
  obtain ⟨n, t, hn, ht, htn⟩ := foreign_of_readable (h d hd) hown
  exact ⟨n, t, hn, ht, htn, by simp [foreignMessage, hn, ht]⟩

theorem filterNotOwnedDatasets_errors_one_foreign :
    let b : BlockMeta := ⟨"block-1", [⟨0, 2⟩, ⟨1, 3⟩], ["tenant-a", "tenant-b", "svc-a", "svc-b"]⟩
    (∀ d ∈ b.datasets, Readable ["tenant-a"] b d = true) ∧
      filterNotOwnedDatasets b (tenantMap ["tenant-a"]) =
        .ok ([⟨0, 2⟩], [isolationError "svc-b" "tenant-b"]) :=
  ⟨by decide, (filterNotOwnedDatasets_errors (by decide)).1.trans rfl⟩

end Filter

/-! ## The dispatch loop -/

section Dispatch

variable {tenants : List String}

theorem isEmpty_filter_eq {α : Type} (p : α → Bool) (l : List α) :
    (l.filter p).isEmpty = !l.any p := by
  rw [Bool.eq_iff_iff]
  simp [List.isEmpty_iff, List.filter_eq_nil_iff]

/-- One block whose datasets are all readable adds its own unit, if it has an owned dataset, and
    its own metric increment, if it has a foreign one. -/
theorem dispatchStep_of_readable (st : Dispatch) {md : BlockMeta}
    (h : ∀ d ∈ md.datasets, Readable tenants md d = true) :
    dispatchStep (tenantMap tenants) st md =
      .ok ⟨st.units ++ ownedUnits tenants [md],
        st.isolationFailures + foreignBlocks tenants [md]⟩ := by
  rw [dispatchStep, filterNotOwnedDatasets_eq h, except_ok_bind]
  have herrs : ((md.datasets.filter fun d => !Owned tenants md d).map (foreignMessage md)).isEmpty =
      md.datasets.all (Owned tenants md) := by
    rw [List.all_eq_not_any_not, ← isEmpty_filter_eq]
    cases md.datasets.filter fun d => !Owned tenants md d <;> rfl
  simp only [isEmpty_filter_eq, herrs]
  cases hany : md.datasets.any (Owned tenants md) <;> cases hall : md.datasets.all (Owned tenants md) <;>
    simp [ownedUnits, foreignBlocks, hany, hall]

theorem foldlM_dispatchStep (blocks : List BlockMeta) (st : Dispatch)
    (h : ∀ b ∈ blocks, ∀ d ∈ b.datasets, Readable tenants b d = true) :
    blocks.foldlM (dispatchStep (tenantMap tenants)) st =
      .ok ⟨st.units ++ ownedUnits tenants blocks,
        st.isolationFailures + foreignBlocks tenants blocks⟩ := by
  induction blocks generalizing st with
  | nil => simp [pure, Except.pure, ownedUnits, foreignBlocks]
  | cons md mds ih =>
    rw [List.foldlM_cons, dispatchStep_of_readable st (h md (.head _)), except_ok_bind,
      ih _ fun b hb => h b (.tail _ hb)]
    simp only [List.append_assoc, Nat.add_assoc, ← ownedUnits_append, ← foreignBlocks_append,
      List.singleton_append]

/-- The dispatch loop panics exactly on a plan with an unreadable dataset. -/
theorem dispatch_panics_iff (blocks : List BlockMeta) (st : Dispatch) :
    (∃ p, blocks.foldlM (dispatchStep (tenantMap tenants)) st = .error p) ↔
      ∃ b ∈ blocks, ∃ d ∈ b.datasets, Readable tenants b d = false := by
  rw [@foldlM_error_iff _ _ _ _ (fun md => md.datasets.all (Readable tenants md))
    (fun st _ h => ⟨_, dispatchStep_of_readable st (by simpa using h)⟩)
    (fun st _ h => ?_) blocks st]
  · simp
  · obtain ⟨p, hp⟩ := filterNotOwnedDatasets_panics_iff.2 (by simpa using h)
    exact ⟨p, by rw [dispatchStep, hp, except_error_bind]⟩

end Dispatch

/-! ## `Invoke` -/

section Invoke

variable {M R : Type} (env : Collaborators M R) (req : InvokeRequest)

theorem rootBlocks_of_accepted {r : Request M}
    (hv : validateRequest env.parseMetricSelector req = .ok (.ok r)) :
    req.rootBlocks = .ok (planBlocks req) := by
  obtain ⟨-, hb, -⟩ := validateRequest_eq_ok.1 hv
  unfold InvokeRequest.rootBlocks
  rcases hp : req.queryPlan with _ | ⟨_ | root⟩ <;> simp_all [QueryPlan.rootBlocks, planBlocks]

/-- An accepted request runs the dispatch loop over the plan's blocks. -/
theorem invoke_of_accepted {r : Request M}
    (hv : validateRequest env.parseMetricSelector req = .ok (.ok r)) :
    invoke env req =
      match (planBlocks req).foldlM (dispatchStep (tenantMap req.tenant)) ⟨[], 0⟩ with
      | .error p => .panicked p
      | .ok st => .launched st.units st.isolationFailures (env.finish r st.units) := by
  simp only [invoke, hv, rootBlocks_of_accepted env req hv, except_ok_bind]

/-- Tenant isolation and completeness of the dispatch: on an accepted request whose datasets are
    all readable, `Invoke` launches one unit for each block with an owned dataset, in plan order,
    carrying exactly the owned datasets in order; it counts the blocks with a foreign dataset;
    and its result is decided by the units alone. -/
theorem invoke_launches_owned {r : Request M}
    (hv : validateRequest env.parseMetricSelector req = .ok (.ok r))
    (hread : ∀ b ∈ planBlocks req, ∀ d ∈ b.datasets, Readable req.tenant b d = true) :
    invoke env req =
      .launched (ownedUnits req.tenant (planBlocks req)) (foreignBlocks req.tenant (planBlocks req))
        (env.finish r (ownedUnits req.tenant (planBlocks req))) := by
  rw [invoke_of_accepted env req hv, foldlM_dispatchStep _ _ hread]
  simp

theorem invoke_launches_owned_two_blocks :
    let req : InvokeRequest := ⟨["tenant-a"], 0#64, 1000#64, "{}",
      some ⟨some ⟨[⟨"block-1", [⟨0, 2⟩, ⟨1, 3⟩], ["tenant-a", "tenant-b", "svc-a", "svc-b"]⟩,
        ⟨"block-2", [⟨0, 1⟩], ["tenant-b", "svc-b"]⟩]⟩⟩, [⟨⟩]⟩
    let env : Collaborators Unit Unit := ⟨fun _ => .ok [], fun _ _ => none, fun _ _ => .ok ()⟩
    invoke env req =
      .launched [⟨"block-1", [⟨0, 2⟩], ["tenant-a", "tenant-b", "svc-a", "svc-b"]⟩] 2 (.ok ()) :=
  (invoke_launches_owned _ _ (by exact rfl) (by decide)).trans rfl

/-- A foreign dataset whose name index lies outside its string table makes `Invoke` panic, on an
    accepted request whose tenant indices all lie in their tables. -/
theorem invoke_foreign_name_out_of_range :
    let req : InvokeRequest := ⟨["tenant-a"], 0#64, 1000#64, "{}",
      some ⟨some ⟨[⟨"block-1", [⟨0, 2⟩, ⟨1, 7⟩], ["tenant-a", "tenant-b", "svc"]⟩]⟩⟩, [⟨⟩]⟩
    let env : Collaborators Unit Unit := ⟨fun _ => .ok [], fun _ _ => none, fun _ _ => .ok ()⟩
    (∃ r, validateRequest env.parseMetricSelector req = .ok (.ok r)) ∧
      (∀ b ∈ planBlocks req, ∀ d ∈ b.datasets, (lookup b.stringTable d.tenant).isSome) ∧
      invoke env req = .panicked (.indexOutOfRange 7 3) :=
  ⟨⟨_, rfl⟩, by decide, rfl⟩

/-- What a launch tells about the call: the request was accepted, every dataset of its plan is
    readable, and the units, the increments and the result are those the owned datasets give. -/
theorem invoke_eq_launched {units : List BlockMeta} {n : Nat} {res : Except String R}
    (h : invoke env req = .launched units n res) :
    ∃ r, validateRequest env.parseMetricSelector req = .ok (.ok r) ∧
      (∀ b ∈ planBlocks req, ∀ d ∈ b.datasets, Readable req.tenant b d = true) ∧
      units = ownedUnits req.tenant (planBlocks req) ∧
      n = foreignBlocks req.tenant (planBlocks req) ∧ res = env.finish r units := by
  rcases hv : validateRequest env.parseMetricSelector req with p | e | r
  · simp [invoke, hv] at h
  · simp [invoke, hv] at h
  have hread : ∀ b ∈ planBlocks req, ∀ d ∈ b.datasets, Readable req.tenant b d = true := by
    by_contra hne
    obtain ⟨p, hp⟩ := (dispatch_panics_iff (planBlocks req) ⟨[], 0⟩).2 (by simpa using hne)
    rw [invoke_of_accepted env req hv, hp] at h
    cases h
  rw [invoke_of_accepted env req hv, foldlM_dispatchStep _ _ hread] at h
  simp only [List.nil_append, Nat.zero_add, Outcome.launched.injEq] at h
  obtain ⟨rfl, rfl, rfl⟩ := h
  exact ⟨r, rfl, hread, rfl, rfl, rfl⟩

/-- Tenant isolation over every call: each unit `Invoke` launches is a block of the plan
    restricted to its owned datasets, so each dataset a unit reads belongs to a tenant of the
    request. -/
theorem invoke_units_owned {units : List BlockMeta} {n : Nat} {res : Except String R}
    (h : invoke env req = .launched units n res) :
    ∀ u ∈ units, ∃ b ∈ planBlocks req,
      u = { b with datasets := b.datasets.filter (Owned req.tenant b) } ∧
      ∀ d ∈ u.datasets, ∃ t, lookup u.stringTable d.tenant = some t ∧ t ∈ req.tenant := by
  obtain ⟨-, -, -, rfl, -, -⟩ := invoke_eq_launched env req h
  intro u hu
  obtain ⟨b, hb, rfl⟩ := List.mem_map.1 hu
  refine ⟨b, (List.mem_filter.1 hb).1, rfl, fun d hd => ?_⟩
  simpa using (List.mem_filter.1 hd).2

theorem invoke_units_owned_two_blocks :
    let req : InvokeRequest := ⟨["tenant-a"], 0#64, 1000#64, "{}",
      some ⟨some ⟨[⟨"block-1", [⟨0, 2⟩, ⟨1, 3⟩], ["tenant-a", "tenant-b", "svc-a", "svc-b"]⟩,
        ⟨"block-2", [⟨0, 1⟩], ["tenant-b", "svc-b"]⟩]⟩⟩, [⟨⟩]⟩
    let env : Collaborators Unit Unit := ⟨fun _ => .ok [], fun _ _ => none, fun _ _ => .ok ()⟩
    ∃ units n res, invoke env req = .launched units n res ∧ units ≠ [] ∧
      ∀ u ∈ units, ∃ b ∈ planBlocks req,
        u = { b with datasets := b.datasets.filter (Owned req.tenant b) } ∧
        ∀ d ∈ u.datasets, ∃ t, lookup u.stringTable d.tenant = some t ∧ t ∈ req.tenant := by
  intro req env
  exact ⟨_, _, _, rfl, List.cons_ne_nil _ _, invoke_units_owned env req rfl⟩

/-- Leaving out a plan with a nil root, `Invoke` panics exactly on an accepted request with an
    unreadable dataset, and turns every rejection into `InvalidArgument` before any dispatch. -/
theorem invoke_panics_iff (hroot : ∀ plan, req.queryPlan = some plan → plan.root.isSome = true) :
    ((∃ p, invoke env req = .panicked p) ↔
      (∃ r, validateRequest env.parseMetricSelector req = .ok (.ok r)) ∧
        ∃ b ∈ planBlocks req, ∃ d ∈ b.datasets, Readable req.tenant b d = false) ∧
    ∀ e, validateRequest env.parseMetricSelector req = .ok (.error e) →
      invoke env req = .invalidArgument ("request validation failed: " ++ e) := by
  rcases hv : validateRequest env.parseMetricSelector req with p | e | r
  · obtain ⟨-, ⟨plan, hp, hr⟩, -⟩ := validateRequest_nil_root.1 hv
    exact absurd (hroot plan hp) (by simp [hr])
  · refine ⟨by simp [invoke, hv], fun e' he => ?_⟩
    cases he
    simp [invoke, hv]
  · refine ⟨?_, fun e he => by cases he⟩
    rw [invoke_of_accepted env req hv, ← dispatch_panics_iff (planBlocks req) ⟨[], 0⟩]
    cases (planBlocks req).foldlM (dispatchStep (tenantMap req.tenant)) ⟨[], 0⟩ <;> simp

theorem invoke_panics_iff_negative_tenant_index :
    let req : InvokeRequest := ⟨["tenant-a"], 0#64, 1000#64, "{}",
      some ⟨some ⟨[⟨"block-1", [⟨-1, 0⟩], ["tenant-a"]⟩]⟩⟩, [⟨⟩]⟩
    let env : Collaborators Unit Unit := ⟨fun _ => .ok [], fun _ _ => none, fun _ _ => .ok ()⟩
    ∃ p, invoke env req = .panicked p :=
  (invoke_panics_iff _ _ (by rintro _ ⟨⟩; rfl)).1.2 ⟨⟨_, by exact rfl⟩, by decide⟩

/-- A tenant index of `-1` makes `Invoke` panic on a request `validateRequest` accepts: no check
    rejects it before the dispatch. -/
theorem invoke_negative_tenant_index :
    let req : InvokeRequest := ⟨["tenant-a"], 0#64, 1000#64, "{}",
      some ⟨some ⟨[⟨"block-1", [⟨-1, 0⟩], ["tenant-a"]⟩]⟩⟩, [⟨⟩]⟩
    let env : Collaborators Unit Unit := ⟨fun _ => .ok [], fun _ _ => none, fun _ _ => .ok ()⟩
    (∃ r, validateRequest env.parseMetricSelector req = .ok (.ok r)) ∧
      invoke env req = .panicked (.indexOutOfRange (-1) 1) :=
  ⟨⟨_, rfl⟩, rfl⟩

/-- A request with a query and a plan whose root is nil panics in `validateRequest`, which
    checks the plan for nil but reads its root without a check, whatever the blocks, tenants
    and selector. -/
theorem invoke_nil_root (hq : req.query ≠ []) (hp : req.queryPlan = some ⟨none⟩) :
    invoke env req = .panicked .nilPointerDereference := by
  simp [invoke, validateRequest_nil_root.2 ⟨hq, ⟨_, hp, rfl⟩, rfl⟩]

end Invoke

/-! ## The caller's request after `Invoke`

A call that launches its units leaves each block of the caller's plan restricted to its owned
datasets, and a second call on that request launches the same units and counts no isolation
failure. -/

section Rewrite

variable {tenants : List String}

@[simp] theorem ownedPart_datasets (b : BlockMeta) :
    (ownedPart tenants b).datasets = b.datasets.filter (Owned tenants b) := rfl

/-- Ownership is read from the string table, which the restriction keeps. -/
@[simp] theorem owned_ownedPart (b : BlockMeta) :
    Owned tenants (ownedPart tenants b) = Owned tenants b := rfl

theorem ownedPart_ownedPart (b : BlockMeta) :
    ownedPart tenants (ownedPart tenants b) = ownedPart tenants b := by
  simp only [ownedPart, BlockMeta.mk.injEq, true_and, and_true]
  exact List.filter_eq_self.2 fun d hd => (List.mem_filter.1 hd).2

theorem readable_of_owned {b : BlockMeta} {d : Dataset} (h : Owned tenants b d = true) :
    Readable tenants b d = true := by
  obtain ⟨t, ht, htm⟩ := owned_eq_true_iff.1 h
  simp [Readable, ht, htm]

theorem ownedUnits_map_ownedPart (blocks : List BlockMeta) :
    ownedUnits tenants (blocks.map (ownedPart tenants)) = ownedUnits tenants blocks := by
  simp [ownedUnits_eq, List.filter_map, Function.comp_def, ownedPart_ownedPart, List.any_filter]

theorem foreignBlocks_map_ownedPart (blocks : List BlockMeta) :
    foreignBlocks tenants (blocks.map (ownedPart tenants)) = 0 := by
  simp [foreignBlocks, List.filter_map, Function.comp_def, List.filter_eq_nil_iff]

theorem writeStep_of_readable {md : BlockMeta}
    (h : ∀ d ∈ md.datasets, Readable tenants md d = true) :
    writeStep (tenantMap tenants) md = .ok (ownedPart tenants md) := by
  rw [writeStep, filterNotOwnedDatasets_eq h]
  rfl

theorem writeBlocks_of_readable (blocks : List BlockMeta)
    (h : ∀ b ∈ blocks, ∀ d ∈ b.datasets, Readable tenants b d = true) :
    writeBlocks (tenantMap tenants) blocks = (blocks.map (ownedPart tenants), none) := by
  induction blocks with
  | nil => rfl
  | cons md mds ih =>
    rw [writeBlocks, writeStep_of_readable (h md (.head _)), ih fun b hb => h b (.tail _ hb)]
    rfl

@[simp] theorem withRootBlocks_tenant (req : InvokeRequest) (bs : List BlockMeta) :
    (req.withRootBlocks bs).tenant = req.tenant := rfl

theorem planBlocks_withRootBlocks {req : InvokeRequest} (hne : planBlocks req ≠ [])
    (bs : List BlockMeta) : planBlocks (req.withRootBlocks bs) = bs := by
  unfold planBlocks at hne ⊢
  rcases hp : req.queryPlan with _ | ⟨_ | root⟩ <;> simp_all [InvokeRequest.withRootBlocks]

end Rewrite

section RewriteInvoke

variable {M R : Type} (env : Collaborators M R) (req : InvokeRequest)

theorem invokeRequestAfter_of_accepted {r : Request M}
    (hv : validateRequest env.parseMetricSelector req = .ok (.ok r)) :
    invokeRequestAfter env req =
      req.withRootBlocks (writeBlocks (tenantMap req.tenant) (planBlocks req)).1 := by
  simp only [invokeRequestAfter, hv]

/-- After a call that launched its units, the caller's plan holds each of its blocks restricted to
    the owned datasets; the units launched are the rewritten blocks with datasets left; and a
    second call on the rewritten request launches the same units with no isolation failure. -/
theorem invoke_rewrites_request {units : List BlockMeta} {n : Nat} {res : Except String R}
    (h : invoke env req = .launched units n res) :
    planBlocks (invokeRequestAfter env req) = (planBlocks req).map (ownedPart req.tenant) ∧
      units = (planBlocks (invokeRequestAfter env req)).filter (fun b => !b.datasets.isEmpty) ∧
      ∃ r', invoke env (invokeRequestAfter env req) = .launched units 0 (env.finish r' units) := by
  obtain ⟨r, hv, hread, rfl, -, -⟩ := invoke_eq_launched env req h
  obtain ⟨hq, hne, ht, ms, hms, -⟩ := validateRequest_eq_ok.1 hv
  have hafter : invokeRequestAfter env req =
      req.withRootBlocks ((planBlocks req).map (ownedPart req.tenant)) := by
    rw [invokeRequestAfter_of_accepted env req hv, writeBlocks_of_readable _ hread]
  have hplan : planBlocks (invokeRequestAfter env req) =
      (planBlocks req).map (ownedPart req.tenant) := by
    rw [hafter, planBlocks_withRootBlocks hne]
  refine ⟨hplan, ?_, ?_⟩
  · rw [hplan, ownedUnits_eq, List.filter_map]
    congr 1
    exact List.filter_congr fun b _ => by simp [isEmpty_filter_eq]
  -- the second call: the same checks pass, and every dataset left is owned
  · rw [hafter]
    set req' := req.withRootBlocks ((planBlocks req).map (ownedPart req.tenant))
    have hplan' : planBlocks req' = (planBlocks req).map (ownedPart req.tenant) :=
      planBlocks_withRootBlocks hne _
    have hv' : validateRequest env.parseMetricSelector req' =
        .ok (.ok ⟨req', ms, unixNano req'.startTime, unixNano req'.endTime⟩) :=
      validateRequest_eq_ok.2 ⟨hq, by simpa [hplan'] using hne, ht, ms, hms, rfl⟩
    have hread' : ∀ b ∈ planBlocks req', ∀ d ∈ b.datasets, Readable req'.tenant b d = true := by
      rw [hplan']
      rintro _ hb d hd
      obtain ⟨b, -, rfl⟩ := List.mem_map.1 hb
      exact readable_of_owned (List.mem_filter.1 hd).2
    refine ⟨⟨req', ms, unixNano req'.startTime, unixNano req'.endTime⟩, ?_⟩
    rw [invoke_of_accepted env req' hv', foldlM_dispatchStep _ _ hread']
    simp [req', hplan', ownedUnits_map_ownedPart, foreignBlocks_map_ownedPart]

theorem invoke_rewrites_request_two_blocks :
    let req : InvokeRequest := ⟨["tenant-a"], 0#64, 1000#64, "{}",
      some ⟨some ⟨[⟨"block-1", [⟨0, 2⟩, ⟨1, 3⟩], ["tenant-a", "tenant-b", "svc-a", "svc-b"]⟩,
        ⟨"block-2", [⟨0, 1⟩], ["tenant-b", "svc-b"]⟩]⟩⟩, [⟨⟩]⟩
    let env : Collaborators Unit Unit := ⟨fun _ => .ok [], fun _ _ => none, fun _ _ => .ok ()⟩
    ∃ units n res, invoke env req = .launched units n res ∧
      planBlocks (invokeRequestAfter env req) = (planBlocks req).map (ownedPart req.tenant) ∧
      units = (planBlocks (invokeRequestAfter env req)).filter (fun b => !b.datasets.isEmpty) ∧
      ∃ r', invoke env (invokeRequestAfter env req) = .launched units 0 (env.finish r' units) := by
  intro req env
  exact ⟨_, _, _, rfl, invoke_rewrites_request env req rfl⟩

end RewriteInvoke

end Pyroscope.QueryBackend
