import Layering.Proofs.Registry

/-!
# What a verdict is about

The built-in policies look at the file and the options only, not at the rest of the run, and what
they report carries the file's path and their own name: `Registry.builtin_contextFree` and
`Registry.builtin_signs`.
-/

namespace Layering

namespace Policy

/-- Judging a file does not take notice of the rest of the run. -/
def ContextFree (p : Policy) : Prop :=
  ∀ options f ctx ctx', p.check options f ctx = p.check options f ctx'

/-- A verdict of a rule on a file, if there is one, is about that file and by that rule. -/
def Signed (rule : String) (f : Source) (verdict : Option Violation) : Prop :=
  ∀ v ∈ verdict, v.path = f.path ∧ v.rule = rule

/-- All verdicts of the policy are signed by it. -/
def Signs (p : Policy) : Prop := ∀ options f ctx, Signed p.name f (p.check options f ctx)

section Signed

variable {rule : String} {f : Source}

theorem signed_none : Signed rule f none := by
  intro v member
  cases member

theorem signed_some {v : Violation} (path : v.path = f.path) (name : v.rule = rule) :
    Signed rule f (some v) := by
  rintro _ ⟨⟩
  exact ⟨path, name⟩

theorem Signed.ite {c : Prop} [Decidable c] {yes no : Option Violation} (left : Signed rule f yes)
    (right : Signed rule f no) : Signed rule f (if c then yes else no) := by
  split
  · exact left
  · exact right

theorem signed_forbid (summary : String) (severity : Severity) (isForbidden : String → Bool) :
    Signed rule f (forbid rule summary severity isForbidden f) := by
  rw [forbid]
  split
  · exact signed_none
  · exact signed_some rfl rfl

end Signed

theorem controllerLayer_signs : Clean.controllerLayer.Signs := by
  intro o f ctx
  refine .ite ?_ signed_none
  split
  · rename_i v found
    exact found ▸ signed_forbid _ _ _
  · exact .ite signed_none (signed_some rfl rfl)

theorem port_signs : Hexagonal.port.Signs :=
  fun _ _ _ => .ite signed_none (.ite (signed_some rfl rfl) (signed_forbid _ _ _))

theorem namespaceDependency_signs : Custom.namespaceDependency.Signs := by
  intro o f ctx
  simp only [Custom.namespaceDependency]
  split
  · exact signed_none
  · split
    · exact signed_none
    · exact signed_some rfl rfl

theorem namingConvention_signs : Custom.namingConvention.Signs := by
  intro o f ctx
  refine .ite signed_none ?_
  intro v member
  obtain ⟨requirement, -, rfl⟩ := Option.map_eq_some_iff.1 (Option.mem_def.1 member)
  exact ⟨rfl, rfl⟩

end Policy

namespace Registry

theorem builtin_contextFree : ∀ entry ∈ builtin.policies.entries, entry.2.ContextFree := by
  apply forall_mem_builtin
  simp only [builtinPolicies, List.forall_mem_cons]
  repeat' apply And.intro
  all_goals first | exact fun _ _ _ _ => rfl | exact List.forall_mem_nil _

/-- Most policies have one kind of verdict behind one guard; the others are told apart above. -/
theorem builtin_signs : ∀ entry ∈ builtin.policies.entries, entry.2.Signs := by
  apply forall_mem_builtin
  simp only [builtinPolicies, List.forall_mem_cons]
  refine ⟨?domainLayer, ?applicationLayer, ?infrastructureLayer, ?entityLayer, ?useCaseLayer,
    Policy.controllerLayer_signs, ?domain, Policy.port_signs, ?adapter,
    Policy.namespaceDependency_signs, Policy.namingConvention_signs, List.forall_mem_nil _⟩
  case infrastructureLayer | adapter =>
    exact fun _ _ _ => .ite (Policy.signed_some rfl rfl) Policy.signed_none
  all_goals exact fun _ _ _ => .ite (Policy.signed_forbid _ _ _) Policy.signed_none

end Registry

end Layering
