import OpenLiveStacker.Camera

/-!
# The camera driver registry

`CameraDriver::load_driver`, `drivers` and `get` (`camera.cpp`): two parallel static vectors,
`driver_names` and `driver_calls`, filled by loading plugins through the dynamic loader. Loading
inserts at position `0`, so id `0` is always the driver loaded last.

* `DynamicLoader`: `dlopen`, `dlsym` and the plugin's config function, as one call finds them;
* `resolveDriver` (lines 21–40) and `loadDriver`, `drivers`, `get`; `resolveDriver_error`: every
  throw of `load_driver` names the driver;
* `runLoads`: a sequence of calls whose exceptions the caller catches, with the calls that
  returned normally and were not no-ops;
* `runLoads_aligned`: the two vectors have equal length, no repeated name, and are the names and
  the resolved factories of those calls, the latest first;
* `get_spec`: on a reachable registry, `get` calls the factory stored at the id, or throws before
  calling any.
-/

namespace OpenLiveStacker
namespace CameraDriver

/-- The dynamic loader and the plugins' code as one call of `load_driver` finds them. Handles and
addresses are numbers; `none` is a null pointer. -/
structure DynamicLoader where
  /-- `dlopen(path, RTLD_LAZY | RTLD_GLOBAL)`. -/
  dlopen : String → Option Nat
  /-- `dlsym(handle, symbol)`. -/
  dlsym : Nat → String → Option Nat
  /-- What the `cam_config_ptr_type` function at an address returns for an option string. -/
  config : Nat → String → BitVec 32

/-- The static vectors `driver_names` and `driver_calls`; a factory is the address of
`ols_get_<name>_driver`. -/
structure Registry where
  driverNames : List String
  driverCalls : List Nat
  deriving DecidableEq, Repr

/-- Both vectors empty, as at program start. -/
def Registry.empty : Registry := ⟨[], []⟩

/-- Lines 42–43: `driver_calls.insert(begin, func)`, then `driver_names.insert(begin, name)`. -/
def Registry.insert (reg : Registry) (name : String) (func : Nat) : Registry :=
  { driverCalls := func :: reg.driverCalls, driverNames := name :: reg.driverNames }

/-- The file `load_driver` opens: `base_path/libols_driver_<name>.so`, the slash only after a
non-empty `base_path`. -/
def pluginPath (basePath name : String) : String :=
  (if basePath.isEmpty then basePath else basePath ++ "/") ++ "libols_driver_" ++ name ++ ".so"

/-- Lines 21–40 of `load_driver`: open the plugin, resolve its factory, and when an option
string is given (`opt` is not null) resolve its config entry and require it to return `0`. -/
def resolveDriver (dl : DynamicLoader) (name basePath : String) (opt : Option String) :
    Except CamError Nat :=
  match dl.dlopen (pluginPath basePath name) with
  | none => .error ⟨"Failed to load driver " ++ name⟩
  | some h =>
    match dl.dlsym h ("ols_get_" ++ name ++ "_driver") with
    | none => .error ⟨"Failed to find driver entry for " ++ name⟩
    | some func =>
      match opt with
      | none => .ok func
      | some o =>
        match dl.dlsym h ("ols_set_" ++ name ++ "_driver_config") with
        | none => .error ⟨"Failed to find driver config entry for " ++ name⟩
        | some optFunc =>
          if dl.config optFunc o ≠ 0 then .error ⟨"Failed to config driver for " ++ name⟩
          else .ok func

/-- `CameraDriver::load_driver(name, base_path, opt)`: a no-op when `name` is loaded; a throw
leaves the registry as the throw found it. -/
def loadDriver (dl : DynamicLoader) (name basePath : String) (opt : Option String)
    (reg : Registry) : EStateM.Result CamError Registry Unit :=
  if name ∈ reg.driverNames then .ok () reg else
  match resolveDriver dl name basePath opt with
  | .error e => .error e reg
  | .ok func => .ok () (reg.insert name func)

/-- `CameraDriver::drivers()`. -/
def drivers (reg : Registry) : List String := reg.driverNames

/-- An exception `get` throws: a `CamError`, or `std::out_of_range` from `vector::at`. -/
inductive GetError
  | camError (e : CamError)
  | outOfRange
  deriving DecidableEq, Repr

/-- What one call of `get` did: the factory calls it made, with their argument, and what it
returned or threw. -/
structure GetOutcome (D : Type) where
  calls : List (Nat × BitVec 32)
  result : Except GetError D

/-- `CameraDriver::get(id, external_option)`. `invoke f x` is what the factory at address `f`
returns for `x` (`none`: a null driver). The bounds check compares `(unsigned)id`; `at(id)`
converts `id` to `size_t`, extending its sign. -/
def get {D : Type} (invoke : Nat → BitVec 32 → Option D) (reg : Registry)
    (id externalOption : BitVec 32) : GetOutcome D :=
  if reg.driverCalls.length ≤ id.toNat then ⟨[], .error (.camError ⟨"Invalid driver id"⟩)⟩ else
  match reg.driverCalls[(id.signExtend 64).toNat]? with
  | none => ⟨[], .error .outOfRange⟩
  | some f =>
    ⟨[(f, externalOption)],
      match invoke f externalOption with
      | none => .error (.camError ⟨"Failed to load camera " ++ toString id.toInt⟩)
      | some r => .ok r⟩

/-! ### Runs of `load_driver` -/

/-- One call `load_driver(name, base_path, opt)`, with the loader as that call finds it. -/
structure LoadCall where
  loader : DynamicLoader
  name : String
  basePath : String
  opt : Option String

/-- The factory a call resolves: `ols_get_<name>_driver` in the library it opens. -/
def LoadCall.factory (c : LoadCall) : Option Nat :=
  (c.loader.dlopen (pluginPath c.basePath c.name)).bind
    fun h => c.loader.dlsym h ("ols_get_" ++ c.name ++ "_driver")

/-- Runs the calls in order from `reg`, the caller catching what each throws. Returns the
registry and, in call order, the calls that returned normally and were not no-ops. -/
def runLoads (reg : Registry) : List LoadCall → Registry × List LoadCall
  | [] => (reg, [])
  | c :: cs =>
    let r := loadDriver c.loader c.name c.basePath c.opt reg
    let rest := runLoads (resultState r) cs
    match r with
    | .ok () _ => if c.name ∈ reg.driverNames then rest else (rest.1, c :: rest.2)
    | .error _ _ => rest

/-! ### One call -/

section Load

variable (c : LoadCall) (reg : Registry)

theorem resolveDriver_factory {f : Nat} (h : resolveDriver c.loader c.name c.basePath c.opt = .ok f) :
    c.factory = some f := by
  unfold resolveDriver at h
  unfold LoadCall.factory
  split at h
  · cases h
  · rename_i hd hopen
    simp only [hopen, Option.some_bind]
    split at h
    · cases h
    · split at h
      · cases h; assumption
      · split at h
        · cases h
        · split at h <;> cases h; assumption

/-- Every throw of `load_driver` names the driver: its message is one of the four texts of
lines 24–37, followed by the name. -/
theorem resolveDriver_error {e : CamError}
    (h : resolveDriver c.loader c.name c.basePath c.opt = .error e) :
    ∃ text ∈ ["Failed to load driver ", "Failed to find driver entry for ",
      "Failed to find driver config entry for ", "Failed to config driver for "],
      e = ⟨text ++ c.name⟩ := by
  unfold resolveDriver at h
  repeat' split at h
  all_goals cases h
  all_goals simp

/-- Everything one call of `load_driver` can do: return at once when the name is loaded, or
throw before touching either vector, or insert the name and the factory it resolved. -/
theorem loadDriver_cases :
    (c.name ∈ reg.driverNames ∧ loadDriver c.loader c.name c.basePath c.opt reg = .ok () reg) ∨
    (c.name ∉ reg.driverNames ∧ ∃ e, loadDriver c.loader c.name c.basePath c.opt reg = .error e reg) ∨
    (c.name ∉ reg.driverNames ∧ ∃ f, c.factory = some f ∧
      loadDriver c.loader c.name c.basePath c.opt reg = .ok () (reg.insert c.name f)) := by
  unfold loadDriver
  by_cases hm : c.name ∈ reg.driverNames
  · exact .inl ⟨hm, if_pos hm⟩
  · rw [if_neg hm]
    cases hr : resolveDriver c.loader c.name c.basePath c.opt with
    | error e => exact .inr (.inl ⟨hm, e, rfl⟩)
    | ok f => exact .inr (.inr ⟨hm, f, resolveDriver_factory c hr, rfl⟩)

/-- A call that throws leaves both vectors as they were. -/
theorem loadDriver_error_state {e : CamError} {s : Registry}
    (h : loadDriver c.loader c.name c.basePath c.opt reg = .error e s) : s = reg := by
  rcases loadDriver_cases c reg with ⟨-, h'⟩ | ⟨-, e', h'⟩ | ⟨-, f, -, h'⟩ <;> rw [h'] at h <;>
    cases h
  rfl

end Load

/-! ### Runs of calls -/

@[simp] theorem runLoads_nil (reg : Registry) : runLoads reg [] = (reg, []) := rfl

/-- A run prepends, to each vector, the names and the factories of the calls that returned
normally and were not no-ops, the latest first; no name is repeated. -/
theorem runLoads_spec (cs : List LoadCall) (reg : Registry) (hreg : reg.driverNames.Nodup) :
    (runLoads reg cs).1.driverNames =
        ((runLoads reg cs).2.map LoadCall.name).reverse ++ reg.driverNames ∧
      (runLoads reg cs).1.driverCalls.map some =
        ((runLoads reg cs).2.map LoadCall.factory).reverse ++ reg.driverCalls.map some ∧
      (runLoads reg cs).1.driverNames.Nodup := by
  induction cs generalizing reg with
  | nil => exact ⟨rfl, rfl, hreg⟩
  | cons c cs ih =>
    rcases loadDriver_cases c reg with ⟨hm, h⟩ | ⟨-, e, h⟩ | ⟨hm, f, hf, h⟩
    · simpa only [runLoads, h, resultState, if_pos hm] using ih reg hreg
    · simpa only [runLoads, h, resultState] using ih reg hreg
    · have hnd : (reg.insert c.name f).driverNames.Nodup := List.nodup_cons.2 ⟨hm, hreg⟩
      obtain ⟨h1, h2, h3⟩ := ih _ hnd
      simp only [runLoads, h, resultState, if_neg hm, List.map_cons, List.reverse_cons,
        List.append_assoc, List.singleton_append]
      exact ⟨h1, by simpa [Registry.insert, hf] using h2, h3⟩

/-- **Both vectors stay aligned.** After any sequence of calls, each returning, returning as a
no-op, or throwing at any of its four failure points: `driver_names` and `driver_calls` have
equal length, no name is repeated, `drivers()` is the reverse of the names of the calls that
returned normally and were not no-ops, and `driver_calls` the reverse of the factories those
calls resolved; a call that throws leaves the vectors as they were. -/
theorem runLoads_aligned (cs : List LoadCall) :
    (runLoads Registry.empty cs).1.driverNames.length =
        (runLoads Registry.empty cs).1.driverCalls.length ∧
      (runLoads Registry.empty cs).1.driverNames.Nodup ∧
      drivers (runLoads Registry.empty cs).1 =
        ((runLoads Registry.empty cs).2.map LoadCall.name).reverse ∧
      (runLoads Registry.empty cs).1.driverCalls.map some =
        ((runLoads Registry.empty cs).2.map LoadCall.factory).reverse ∧
      ∀ (c : LoadCall) (reg s : Registry) (e : CamError),
        loadDriver c.loader c.name c.basePath c.opt reg = .error e s → s = reg := by
  obtain ⟨h1, h2, h3⟩ := runLoads_spec cs Registry.empty List.nodup_nil
  simp only [Registry.empty, List.append_nil, List.map_nil] at h1 h2 h3 ⊢
  refine ⟨?_, h3, h1, h2, fun c reg s e h => loadDriver_error_state c reg h⟩
  have hl := congrArg List.length h2
  simp only [List.length_map, List.length_reverse] at hl
  simp [h1, hl]

/-- Spec §8: loading `a`, `b`, `c`, then `b` again, with a loader that finds every plugin. -/
example : drivers (runLoads Registry.empty
    (["a", "b", "c", "b"].map fun n => ⟨⟨fun _ => some 1, fun _ _ => some 7, fun _ _ => 0⟩,
      n, "", none⟩)).1 = ["c", "b", "a"] := by decide

/-! ### `get` -/

/-- `get` on any registry of fewer than `2^31` entries: an `id` at which a factory is stored calls
exactly that factory, with `opt`; any `id` out of range, negative ones included, throws without
calling one. -/
theorem get_cases {D : Type} (invoke : Nat → BitVec 32 → Option D) (reg : Registry)
    (hsize : reg.driverCalls.length < 2 ^ 31) (id opt : BitVec 32) :
    (∀ f, 0 ≤ id.toInt → reg.driverCalls[id.toNat]? = some f →
      get invoke reg id opt = ⟨[(f, opt)], match invoke f opt with
        | none => .error (.camError ⟨"Failed to load camera " ++ toString id.toInt⟩)
        | some r => .ok r⟩) ∧
    (¬ (0 ≤ id.toInt ∧ id.toInt < reg.driverCalls.length) →
      get invoke reg id opt = ⟨[], .error (.camError ⟨"Invalid driver id"⟩)⟩) := by
  refine ⟨fun f h0 hf => ?_, fun hout => ?_⟩
  · have hlt : id.toNat < reg.driverCalls.length := (List.getElem?_eq_some_iff.1 hf).1
    simp only [get, signExtend_toNat h0, hf, if_neg (Nat.not_le.2 hlt)]
  · have hge : reg.driverCalls.length ≤ id.toNat := by
      by_cases h0 : 0 ≤ id.toInt
      · have := toInt_of_nonneg h0; omega
      · have := (toInt_nonneg_iff id).not.1 h0; omega
    simp only [get, if_pos hge]

/-- **`get` on a reachable registry.** On the registry left by any sequence of `load_driver`
calls, with fewer than `2^31` entries: for `0 ≤ id < drivers().size()`, `get(id, opt)` calls
exactly the factory resolved by the call that loaded `drivers()[id]`, with `opt`, and returns its
driver, or throws `CamError` when it is null; for every other `int` id, negative ones included,
it throws `CamError` and calls no factory. -/
theorem get_spec {D : Type} (cs : List LoadCall)
    (hsize : (runLoads Registry.empty cs).1.driverCalls.length < 2 ^ 31)
    (invoke : Nat → BitVec 32 → Option D) (id opt : BitVec 32) :
    (0 ≤ id.toInt → id.toInt < (drivers (runLoads Registry.empty cs).1).length →
      ∃ c f, (runLoads Registry.empty cs).2.reverse[id.toNat]? = some c ∧
        (drivers (runLoads Registry.empty cs).1)[id.toNat]? = some c.name ∧
        c.factory = some f ∧
        get invoke (runLoads Registry.empty cs).1 id opt =
          ⟨[(f, opt)], match invoke f opt with
            | none => .error (.camError ⟨"Failed to load camera " ++ toString id.toInt⟩)
            | some r => .ok r⟩) ∧
    (¬ (0 ≤ id.toInt ∧ id.toInt < (drivers (runLoads Registry.empty cs).1).length) →
      get invoke (runLoads Registry.empty cs).1 id opt =
        ⟨[], .error (.camError ⟨"Invalid driver id"⟩)⟩) := by
  obtain ⟨h1, h2, -⟩ := runLoads_spec cs Registry.empty List.nodup_nil
  simp only [Registry.empty, List.append_nil, List.map_nil] at h1 h2 hsize ⊢
  generalize runLoads ⟨[], []⟩ cs = r at h1 h2 hsize ⊢
  obtain ⟨reg, ld⟩ := r
  dsimp only at h1 h2 hsize ⊢
  obtain ⟨hin, hout⟩ := get_cases invoke reg hsize id opt
  have hlen : (drivers reg).length = reg.driverCalls.length := by
    simpa [drivers, h1] using (congrArg List.length h2).symm
  rw [hlen]
  refine ⟨fun h0 hlt => ?_, hout⟩
  have hi : id.toNat < ld.reverse.length := by
    have := toInt_of_nonneg h0
    simpa [h1, drivers] using (show id.toNat < (drivers reg).length by omega)
  -- the factory stored at `id` is the one the `id`-th loading call resolved
  have hf := congrArg (·[id.toNat]?) h2
  simp only [List.getElem?_map, ← List.map_reverse, List.getElem?_eq_getElem hi,
    Option.map_some'] at hf
  obtain ⟨f, hf', hcf⟩ := Option.map_eq_some'.1 hf
  exact ⟨ld.reverse[id.toNat], f, List.getElem?_eq_getElem hi,
    by simp only [drivers, h1, ← List.map_reverse, List.getElem?_map, List.getElem?_eq_getElem hi,
      Option.map_some'], hcf.symm, hin f h0 hf'⟩

theorem get_spec_negative_id :
    (runLoads Registry.empty
        [⟨⟨fun _ => some 1, fun _ _ => some 7, fun _ _ => 0⟩, "a", "", none⟩]).1.driverCalls.length <
        2 ^ 31 ∧
      get (fun _ _ => some ()) (runLoads Registry.empty
          [⟨⟨fun _ => some 1, fun _ _ => some 7, fun _ _ => 0⟩, "a", "", none⟩]).1 (-1) 0 =
        ⟨[], .error (.camError ⟨"Invalid driver id"⟩)⟩ :=
  ⟨by decide, (get_spec _ (by decide) (fun _ _ => some ()) (-1) 0).2 (by decide)⟩

end CameraDriver
end OpenLiveStacker
