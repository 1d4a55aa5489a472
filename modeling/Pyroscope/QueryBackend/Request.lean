import Pyroscope.Go.Basic
import Mathlib.Algebra.Group.Nat.Basic

set_option autoImplicit false

/-! # Block reader requests (`InvokeRequest`, `validateRequest`)

A query reaches `BlockReader.Invoke` as a `queryv1.InvokeRequest`: the tenants the caller may
read, a time range in milliseconds, a label selector, the query plan (whose root node lists the
block metadata to read) and the queries. `validateRequest` rejects a request with no query, no
blocks or no tenant, or with a selector that does not parse, and converts the time range to
nanoseconds with `model.Time.UnixNano`, an int64 product that wraps outside about ±292 years
around 1970 (`unixNano_toInt_eq_iff`).

The checks are made in Go's order and the plan is dereferenced as Go does it:
`req.QueryPlan == nil || len(req.QueryPlan.Root.Blocks) == 0` reads `Root` of a non-nil plan
without a nil check, so a plan with no root panics (`validateRequest_nil_root`). Runtime panics
are the error side of the outer `Except`; the Go error result is the inner one. -/

namespace Pyroscope.QueryBackend

open Pyroscope.Go

/-! ## Go runtime -/

/-- A Go runtime panic raised by the block reader's own code. -/
inductive RuntimeError
  /-- "runtime error: invalid memory address or nil pointer dereference" -/
  | nilPointerDereference
  /-- "runtime error: index out of range [i] with length n" -/
  | indexOutOfRange (index : Int) (length : Nat)
  deriving DecidableEq, Repr

/-- The element at integer index `i` of a slice, when `0 ≤ i < len`. -/
def lookup {α : Type} (xs : List α) (i : Int) : Option α :=
  if 0 ≤ i then xs[i.toNat]? else none

/-- Go's `xs[i]`: the element, or the index-out-of-range panic. -/
def index {α : Type} (xs : List α) (i : Int) : Except RuntimeError α :=
  match lookup xs i with
  | some a => .ok a
  | none => .error (.indexOutOfRange i xs.length)

theorem index_eq_ok {α : Type} {xs : List α} {i : Int} {a : α} (h : lookup xs i = some a) :
    index xs i = .ok a := by
  simp [index, h]

theorem index_eq_error {α : Type} {xs : List α} {i : Int} (h : lookup xs i = none) :
    index xs i = .error (.indexOutOfRange i xs.length) := by
  simp [index, h]

/-! ## The request -/

/-- `metastorev1.Dataset`; the reader reads the two string-table indices (Go `int32`). -/
structure Dataset where
  tenant : Int
  name : Int
  deriving DecidableEq, Repr

/-- `metastorev1.BlockMeta`: the block id, its datasets and the string table they index. -/
structure BlockMeta where
  id : String
  datasets : List Dataset
  stringTable : List String
  deriving DecidableEq, Repr

/-- `queryv1.QueryNode`; the reader reads its blocks. -/
structure QueryNode where
  blocks : List BlockMeta
  deriving DecidableEq, Repr

/-- `queryv1.QueryPlan`; `root` is a message field, `nil` when absent. -/
structure QueryPlan where
  root : Option QueryNode
  deriving DecidableEq, Repr

/-- `queryv1.Query`. `validateRequest` only counts the queries and reads none of their fields
    (`QueryType` is read by `setTraceTags` alone, which is not modelled). -/
structure Query where
  deriving DecidableEq, Repr

/-- `queryv1.InvokeRequest`. Times are Go `int64` milliseconds. -/
structure InvokeRequest where
  tenant : List String
  startTime : BitVec 64
  endTime : BitVec 64
  labelSelector : String
  queryPlan : Option QueryPlan
  query : List Query
  deriving DecidableEq, Repr

/-- `request`: the validated request with its parsed matchers (of the matcher type `M` of the
    selector parser) and its time range in nanoseconds. -/
structure Request (M : Type) where
  src : InvokeRequest
  matchers : List M
  startTime : BitVec 64
  endTime : BitVec 64

/-- `req.QueryPlan.Root.Blocks` once the plan is known to be non-nil: the root may still be
    nil. -/
def QueryPlan.rootBlocks (plan : QueryPlan) : Except RuntimeError (List BlockMeta) :=
  match plan.root with
  | some root => .ok root.blocks
  | none => .error .nilPointerDereference

/-- The blocks of the plan, or none when there is no plan or no root. -/
def planBlocks (req : InvokeRequest) : List BlockMeta :=
  match req.queryPlan with
  | some ⟨some root⟩ => root.blocks
  | _ => []

/-- Whether the request has a plan whose root is nil. -/
def InvokeRequest.nilRoot (req : InvokeRequest) : Bool :=
  match req.queryPlan with
  | some ⟨none⟩ => true
  | _ => false

theorem InvokeRequest.nilRoot_iff {req : InvokeRequest} :
    req.nilRoot = true ↔ ∃ plan, req.queryPlan = some plan ∧ plan.root = none := by
  unfold InvokeRequest.nilRoot
  rcases req.queryPlan with _ | ⟨_ | root⟩ <;> simp

theorem planBlocks_of_nilRoot {req : InvokeRequest} (h : req.nilRoot = true) : planBlocks req = [] := by
  unfold InvokeRequest.nilRoot at h
  unfold planBlocks
  split <;> simp_all

/-! ## Milliseconds to nanoseconds -/

/-- `model.Time(t).UnixNano()` of prometheus/common: `int64(t) * nanosPerTick` with
    `nanosPerTick = 10^6`, a wrapping int64 product. -/
def unixNano (t : BitVec 64) : BitVec 64 := t * 1000000#64

/-- The milliseconds whose nanosecond count fits in an int64. -/
def FitsUnixNano (t : BitVec 64) : Prop := -9223372036854 ≤ t.toInt ∧ t.toInt ≤ 9223372036854

instance (t : BitVec 64) : Decidable (FitsUnixNano t) := inferInstanceAs (Decidable (_ ∧ _))

/-- As integers, the conversion is the product by `10^6` reduced to the int64 range. -/
theorem unixNano_toInt (t : BitVec 64) :
    (unixNano t).toInt = (t.toInt * 1000000).bmod (2 ^ 64) := by
  rw [unixNano, BitVec.toInt_mul]
  rfl

/-- The conversion is exact precisely on the milliseconds that fit. -/
theorem unixNano_toInt_eq_iff (t : BitVec 64) :
    (unixNano t).toInt = t.toInt * 1000000 ↔ FitsUnixNano t := by
  rw [unixNano_toInt, Int.bmod_def, FitsUnixNano]
  split <;> omega

/-! ## `validateRequest` -/

/-- `validateRequest`, given the selector parser `parser.ParseMetricSelector`. -/
def validateRequest {M : Type} (parseMetricSelector : String → Except String (List M))
    (req : InvokeRequest) : Except RuntimeError (Except String (Request M)) :=
  if req.query.isEmpty then .ok (.error "no query provided")
  else match req.queryPlan with
    | none => .ok (.error "no blocks to query")
    | some plan =>
      plan.rootBlocks >>= fun blocks =>
        if blocks.isEmpty then .ok (.error "no blocks to query")
        else if req.tenant.isEmpty then .ok (.error "no tenant provided")
        else match parseMetricSelector req.labelSelector with
          | .error e => .ok (.error ("label selection is invalid: " ++ e))
          | .ok matchers =>
            .ok (.ok
              { src := req
                matchers := matchers
                startTime := unixNano req.startTime
                endTime := unixNano req.endTime })

section Validate

variable {M : Type} {parse : String → Except String (List M)} {req : InvokeRequest}

/-- The whole outcome of `validateRequest`, check by check: the nil root panics where Go reads
    `QueryPlan.Root.Blocks`, after the query check and before the block check. -/
theorem validateRequest_eq :
    validateRequest parse req =
      if req.query = [] then .ok (.error "no query provided")
      else if req.nilRoot then .error .nilPointerDereference
      else if planBlocks req = [] then .ok (.error "no blocks to query")
      else if req.tenant = [] then .ok (.error "no tenant provided")
      else match parse req.labelSelector with
        | .error e => .ok (.error ("label selection is invalid: " ++ e))
        | .ok ms => .ok (.ok ⟨req, ms, unixNano req.startTime, unixNano req.endTime⟩) := by
  unfold validateRequest planBlocks InvokeRequest.nilRoot
  rcases req.query with _ | ⟨q, qs⟩
  · simp
  rcases req.queryPlan with _ | ⟨_ | root⟩
  · simp
  · simp [QueryPlan.rootBlocks]
  simp only [QueryPlan.rootBlocks, except_ok_bind, List.isEmpty_iff]
  split_ifs <;> rfl

/-- A request is accepted exactly when it has a query, blocks, a tenant and a selector that
    parses; the result carries the matchers and the converted times. -/
theorem validateRequest_eq_ok {r : Request M} :
    validateRequest parse req = .ok (.ok r) ↔
      req.query ≠ [] ∧ planBlocks req ≠ [] ∧ req.tenant ≠ [] ∧ ∃ ms,
        parse req.labelSelector = .ok ms ∧
          r = ⟨req, ms, unixNano req.startTime, unixNano req.endTime⟩ := by
  rw [validateRequest_eq]
  split_ifs <;> simp_all [planBlocks_of_nilRoot]
  cases parse req.labelSelector <;> simp [@eq_comm _ r]

/-- The rejections, each with its text and the checks before it that passed. -/
theorem validateRequest_eq_error {e : String} :
    validateRequest parse req = .ok (.error e) ↔
      (req.query = [] ∧ e = "no query provided") ∨
      (req.query ≠ [] ∧ req.nilRoot = false ∧ planBlocks req = [] ∧ e = "no blocks to query") ∨
      (req.query ≠ [] ∧ planBlocks req ≠ [] ∧ req.tenant = [] ∧ e = "no tenant provided") ∨
      (req.query ≠ [] ∧ planBlocks req ≠ [] ∧ req.tenant ≠ [] ∧
        ∃ err, parse req.labelSelector = .error err ∧ e = "label selection is invalid: " ++ err) := by
  rw [validateRequest_eq]
  split_ifs <;> simp_all [planBlocks_of_nilRoot, @eq_comm _ e]
  cases parse req.labelSelector <;> simp [@eq_comm _ e]

/-- The only panic of `validateRequest`: a non-nil plan without a root (after the query check),
    read as `req.QueryPlan.Root.Blocks`. -/
theorem validateRequest_nil_root {p : RuntimeError} :
    validateRequest parse req = .error p ↔
      req.query ≠ [] ∧ (∃ plan, req.queryPlan = some plan ∧ plan.root = none) ∧
        p = .nilPointerDereference := by
  rw [validateRequest_eq, ← InvokeRequest.nilRoot_iff]
  split_ifs <;> simp_all [@eq_comm _ p]
  cases parse req.labelSelector <;> simp

/-- What an accepted request's nanosecond range is: the int64-wrapped product of the
    millisecond bounds by `10^6`, exact precisely when the bound fits, and ordered like the
    bounds when both fit. -/
theorem validateRequest_time_range {r : Request M} (h : validateRequest parse req = .ok (.ok r)) :
    r.startTime.toInt = (req.startTime.toInt * 1000000).bmod (2 ^ 64) ∧
    r.endTime.toInt = (req.endTime.toInt * 1000000).bmod (2 ^ 64) ∧
    (r.startTime.toInt = req.startTime.toInt * 1000000 ↔ FitsUnixNano req.startTime) ∧
    (r.endTime.toInt = req.endTime.toInt * 1000000 ↔ FitsUnixNano req.endTime) ∧
    (FitsUnixNano req.startTime → FitsUnixNano req.endTime →
      req.startTime.toInt ≤ req.endTime.toInt → r.startTime.toInt ≤ r.endTime.toInt) := by
  obtain ⟨-, -, -, ms, -, rfl⟩ := validateRequest_eq_ok.1 h
  refine ⟨unixNano_toInt _, unixNano_toInt _, unixNano_toInt_eq_iff _, unixNano_toInt_eq_iff _,
    fun hs he hle => ?_⟩
  rw [(unixNano_toInt_eq_iff _).2 hs, (unixNano_toInt_eq_iff _).2 he]
  omega

end Validate

theorem validateRequest_time_range_one_second :
    ∃ r : Request Unit, validateRequest (fun _ => .ok [])
        ⟨["tenant-a"], 1000#64, 2000#64, "{}",
          some ⟨some ⟨[⟨"block-1", [⟨0, 1⟩], ["tenant-a", "svc"]⟩]⟩⟩, [⟨⟩]⟩ = .ok (.ok r) ∧
      r.startTime.toInt = 1000000000 := by
  obtain ⟨r, h⟩ : ∃ r : Request Unit, validateRequest (fun _ => .ok [])
      ⟨["tenant-a"], 1000#64, 2000#64, "{}",
        some ⟨some ⟨[⟨"block-1", [⟨0, 1⟩], ["tenant-a", "svc"]⟩]⟩⟩, [⟨⟩]⟩ = .ok (.ok r) :=
    ⟨_, rfl⟩
  exact ⟨r, h, by rw [(validateRequest_time_range h).2.2.1.2 (by decide)]; decide⟩

/-- An end time a little over 292 years after 1970 wraps to a negative nanosecond count, so the
    converted range is reversed although the request's is not. -/
theorem validateRequest_wraps_end_time :
    ∃ r : Request Unit, validateRequest (fun _ => .ok []) 
        ⟨["tenant-a"], 0#64, 9223372036855#64, "{}",
          some ⟨some ⟨[⟨"block-1", [⟨0, 1⟩], ["tenant-a", "svc"]⟩]⟩⟩, [⟨⟩]⟩ = .ok (.ok r) ∧
      r.endTime.toInt ≠ (9223372036855#64 : BitVec 64).toInt * 1000000 ∧
      (0#64 : BitVec 64).toInt ≤ (9223372036855#64 : BitVec 64).toInt ∧
      r.endTime.toInt < r.startTime.toInt :=
  ⟨_, rfl, by decide, by decide, by decide⟩

end Pyroscope.QueryBackend
