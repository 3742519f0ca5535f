import Mathlib.Data.List.Pairwise
import Mathlib.Tactic.ByContra
import ShaderFilm.Shader.Compiled

/-!
# What the reported usage is about

The usage is worked out from the slots of the global variables that the entry point uses, whatever
variable stands there (`uses_ofGlobals`).  The global variables of a canonical program are the blocks
of its header and the shader's own.  No two that are in use share a slot, so the report is about the
block of the header unless a variable of the shader's own has taken its slot (`usage_of_globals`).
Such a variable is reported as the standard uniform, which is then not used at all
(`usage_of_clock`).
-/

namespace ShaderFilm.Shader

open ShaderFilm.Glsl (Slot)

/-- The slot of a standard uniform. -/
def StandardUniform.slot (u : StandardUniform) : Slot := ⟨0, u.binding⟩

/-! ### Slots in use -/

/-- Whether a global variable stands in a slot and is used. -/
def GlobalUse.Fills (g : GlobalUse) (slot : Slot) : Prop := g.used = true ∧ g.slot = some slot

instance (g : GlobalUse) (slot : Slot) : Decidable (g.Fills slot) :=
  inferInstanceAs (Decidable (_ ∧ _))

namespace UniformUsage

theorem standardAt_eq_some {g : GlobalUse} {u : StandardUniform} :
    standardAt g = some u ↔ g.slot = some u.slot := by
  unfold standardAt
  split
  · next slot bound =>
    rw [bound]
    obtain ⟨group, binding⟩ := slot
    dsimp only
    constructor
    · intro found
      split at found
      · next zero =>
        have same : u.binding = binding := by simpa using List.find?_some found
        simp [StandardUniform.slot, zero, same]
      · cases found
    · intro same
      obtain ⟨rfl, rfl⟩ : group = 0 ∧ binding = u.binding := by
        simpa [StandardUniform.slot] using same
      cases u <;> decide
  · next unbound =>
    rw [unbound]
    simp

theorem uses_step (usage : UniformUsage) (g : GlobalUse) (u : StandardUniform) :
    (usage.step g).uses u = true ↔ usage.uses u = true ∨ g.Fills u.slot := by
  unfold step GlobalUse.Fills
  rw [← standardAt_eq_some]
  cases standardAt g with
  | none => simp
  | some v =>
    cases g.used with
    | false => simp
    | true => simp [@eq_comm _ u v]

theorem uses_foldl (globals : List GlobalUse) (usage : UniformUsage) (u : StandardUniform) :
    (globals.foldl step usage).uses u = true ↔
      usage.uses u = true ∨ ∃ g ∈ globals, g.Fills u.slot := by
  induction globals generalizing usage with
  | nil => simp
  | cons g rest ih => simp [ih, uses_step, or_assoc]

/-- A standard uniform is reported as used just if a variable in its slot is. -/
theorem uses_ofGlobals (globals : List GlobalUse) (u : StandardUniform) :
    (ofGlobals globals).uses u = true ↔ ∃ g ∈ globals, g.Fills u.slot := by
  simp [ofGlobals, uses_foldl]

end UniformUsage

/-! ### The blocks of the header and the shader's own variables -/

/-- A global variable of a canonical program. -/
inductive Global where
  /-- The block of a standard uniform, which the header declares. -/
  | header (u : StandardUniform) (used : Bool)
  /-- A variable that the shader declares itself, bound to any slot or to none. -/
  | own (g : GlobalUse)
  deriving DecidableEq, Repr

namespace Global

/-- The variable as the compiler sees it. -/
def use : Global → GlobalUse
  | header u used => ⟨some u.slot, used⟩
  | own g => g

def isHeader : Global → Bool
  | header _ _ => true
  | own _ => false

/-- Two variables that are not both used in one slot. -/
def Apart (x y : Global) : Prop :=
  x.use.used = true → y.use.used = true → x.use.slot = y.use.slot → x.use.slot = none

instance : DecidableRel Apart := fun x y =>
  inferInstanceAs (Decidable (x.use.used = true → y.use.used = true → _ → _))

instance : Std.Symm Apart where
  symm _ _ apart used other same := same.trans (apart other used same.symm)

/-- No two variables that are in use share a slot. -/
def Valid (globals : List Global) : Prop := globals.Pairwise Apart

instance (globals : List Global) : Decidable (Valid globals) :=
  inferInstanceAs (Decidable (globals.Pairwise Apart))

theorem Valid.eq {globals : List Global} (valid : Valid globals) {x y : Global} {slot : Slot}
    (mem : x ∈ globals) (other : y ∈ globals) (fills : x.use.Fills slot)
    (too : y.use.Fills slot) : x = y := by
  by_contra differ
  have unbound := valid.forall mem other differ fills.1 too.1 (fills.2.trans too.2.symm)
  cases fills.2.symm.trans unbound

theorem fills_header {u v : StandardUniform} {used : Bool} :
    (header u used).use.Fills v.slot ↔ used = true ∧ u = v := by
  constructor
  · rintro ⟨isUsed, slot⟩
    have same : u.binding = v.binding := congrArg Slot.binding (Option.some.inj slot)
    exact ⟨isUsed, StandardUniform.binding_injective same⟩
  · rintro ⟨isUsed, rfl⟩
    exact ⟨isUsed, rfl⟩

/-- What is reported: the block of the header is used, or a variable of the shader's own in its
slot is. -/
theorem uses_ofGlobals_use (globals : List Global) (u : StandardUniform) :
    (UniformUsage.ofGlobals (globals.map use)).uses u = true ↔
      header u true ∈ globals ∨ ∃ g, own g ∈ globals ∧ g.Fills u.slot := by
  rw [UniformUsage.uses_ofGlobals]
  constructor
  · rintro ⟨_, mem, fills⟩
    obtain ⟨x, among, rfl⟩ := List.mem_map.1 mem
    cases x with
    | header v used =>
      obtain ⟨rfl, rfl⟩ := fills_header.1 fills
      exact .inl among
    | own g => exact .inr ⟨g, among, fills⟩
  · rintro (mem | ⟨g, mem, fills⟩)
    · exact ⟨_, List.mem_map_of_mem mem, fills_header.2 ⟨rfl, rfl⟩⟩
    · exact ⟨_, List.mem_map_of_mem mem, fills⟩

/-- Of global variables no two of which are used in one slot: where no variable of the shader's own
is used in the slot of a standard uniform, the uniform is reported as used just if its block is, and
just if it were without the shader's own variables; where there is one, it is reported as used though
its block is not. -/
theorem usage_of_globals (globals : List Global) (valid : Valid globals) (u : StandardUniform) :
    ((∀ g, own g ∈ globals → ¬ g.Fills u.slot) →
        ((UniformUsage.ofGlobals (globals.map use)).uses u = true ↔ header u true ∈ globals) ∧
          (UniformUsage.ofGlobals (globals.map use)).uses u =
            (UniformUsage.ofGlobals ((globals.filter isHeader).map use)).uses u) ∧
      ∀ g, own g ∈ globals → g.Fills u.slot →
        (UniformUsage.ofGlobals (globals.map use)).uses u = true ∧ header u true ∉ globals := by
  refine ⟨fun free => ?_, fun g mem fills => ?_⟩
  · have none : ¬ ∃ g, own g ∈ globals ∧ g.Fills u.slot := fun ⟨g, mem, fills⟩ => free g mem fills
    refine ⟨by rw [uses_ofGlobals_use, or_iff_left none], ?_⟩
    rw [Bool.eq_iff_iff, uses_ofGlobals_use, uses_ofGlobals_use, or_iff_left none]
    simp [isHeader]
  · refine ⟨(uses_ofGlobals_use globals u).2 (.inr ⟨g, mem, fills⟩), fun block => ?_⟩
    cases valid.eq mem block fills (fills_header.2 ⟨rfl, rfl⟩)

/-- A shader that puts a block of its own in the slot of the time, and reads nothing else. -/
def clockShader : List Char :=
  ("layout(std140, set = 0, binding = 0) uniform Clock \x7b float t; \x7d;\n" ++
    "void main() \x7b gl_FragColor = vec4(t); \x7d\n").toList

/-- Its global variables: the header, whose blocks are not in use, and `Clock`, which is. -/
def clock : List Global :=
  [header .time false, header .resolution false, header .mouse false, own ⟨some ⟨0, 0⟩, true⟩]

/-- The shader is told to use the time, which it does not. -/
theorem usage_of_clock :
    (compile (canonicalize clockShader)).toOption.map Compiled.globals = some (clock.map use) ∧
      Valid clock ∧ (UniformUsage.ofGlobals (clock.map use)).uses .time = true ∧
      header .time true ∉ clock ∧
      (UniformUsage.ofGlobals ((clock.filter isHeader).map use)).uses .time = false :=
  ⟨by decide +kernel, by decide⟩

theorem usage_of_globals_clock :
    Valid clock ∧ (∀ g, own g ∈ clock → ¬ g.Fills StandardUniform.mouse.slot) ∧
      ((UniformUsage.ofGlobals (clock.map use)).uses .mouse = true ↔
        header .mouse true ∈ clock) ∧
      own ⟨some ⟨0, 0⟩, true⟩ ∈ clock ∧
      GlobalUse.Fills ⟨some ⟨0, 0⟩, true⟩ StandardUniform.time.slot ∧
      header .time true ∉ clock := by
  have valid : Valid clock := by decide
  have free : ∀ g, own g ∈ clock → ¬ g.Fills StandardUniform.mouse.slot := by
    intro g mem
    obtain rfl : g = ⟨some ⟨0, 0⟩, true⟩ := by simpa [clock] using mem
    decide
  have mem : own ⟨some ⟨0, 0⟩, true⟩ ∈ clock := by decide
  have fills : GlobalUse.Fills ⟨some ⟨0, 0⟩, true⟩ StandardUniform.time.slot := by decide
  exact ⟨valid, free, ((usage_of_globals clock valid .mouse).1 free).1, mem, fills,
    ((usage_of_globals clock valid .time).2 _ mem fills).2⟩

end Global

end ShaderFilm.Shader
