import RobotWeb.Proofs.Text.Numeral
import RobotWeb.Proofs.Text.Split
import RobotWeb.Resource

/-!
# The URIs of resources

The URI of a resource tells which resource it is, as long as it tells where the task and the module
of a RAPID variable end.

* `Resource.Plain`, `Resource.Flat` — two ways in which it does.
* `Resource.uri_injective`          — resources with one URI are the same.
-/

namespace RobotWeb

/-- Neither the task nor the module has a slash. -/
def RapidVariable.Plain (v : RapidVariable) : Prop :=
  '/' ∉ v.task.toList ∧ '/' ∉ v.module.toList

@[simp] theorem RapidVariable.toList_symbolUri (v : RapidVariable) :
    v.symbolUri.toList = "/rw/rapid/symbol/RAPID/".toList ++
      (v.task.toList ++ '/' :: (v.module.toList ++ '/' :: v.name.toList)) := by
  unfold symbolUri
  simp

/-- A variable whose URI has only the slashes that every such URI has shares it with no other. -/
theorem RapidVariable.plain_of_symbolUri {v w : RapidVariable} (hv : v.Plain)
    (hname : '/' ∉ v.name.toList) (h : v.symbolUri = w.symbolUri) : w.Plain := by
  have hcount := congrArg (fun uri => uri.toList.count '/') h
  simp only [toList_symbolUri, List.count_append, List.count_cons_self,
    List.count_eq_zero_of_not_mem hv.1, List.count_eq_zero_of_not_mem hv.2,
    List.count_eq_zero_of_not_mem hname] at hcount
  exact ⟨List.count_eq_zero.mp (by omega), List.count_eq_zero.mp (by omega)⟩

/-- Variables with the same URI are the same, as long as task and module hold no slash. -/
theorem RapidVariable.symbolUri_injective {v w : RapidVariable} (hv : v.Plain) (hw : w.Plain)
    (h : v.symbolUri = w.symbolUri) : v = w := by
  have hlist := congrArg String.toList h
  rw [toList_symbolUri, toList_symbolUri, List.append_cancel_left_eq] at hlist
  obtain ⟨htask, hrest⟩ := Text.join_injective hv.1 hw.1 hlist
  obtain ⟨hmodule, hname⟩ := Text.join_injective hv.2 hw.2 hrest
  cases v
  cases w
  simp_all [String.toList_inj]

namespace Resource

/-- The task and the module of a variable have no slash. -/
def Plain : Resource → Prop
  | rapidVariable v => v.Plain
  | _ => True

/-- The name of a variable has no slash. -/
def Flat : Resource → Prop
  | rapidVariable v => '/' ∉ v.name.toList
  | _ => True

@[simp] theorem uri_ioSignal (name : String) :
    (ioSignal name).uri = "/rw/iosystem/signals/" ++ name ++ ";state" := rfl

@[simp] theorem uri_rapidVariable (v : RapidVariable) :
    (rapidVariable v).uri = v.symbolUri ++ ";value" := rfl

@[simp] theorem uri_elogDomain (domain : UInt32) :
    (elogDomain domain).uri = "/rw/elog/" ++ domain.toNat.repr := rfl

@[simp] theorem uri_executionState : executionState.uri = "/rw/rapid/execution;ctrlexecstate" := rfl

@[simp] theorem uri_controllerState : controllerState.uri = "/rw/panel/ctrl-state" := rfl

/-- Resources with one URI are the same. -/
theorem uri_injective {r s : Resource} (hr : r.Plain) (hs : s.Plain ∨ r.Flat)
    (h : r.uri = s.uri) : r = s := by
  -- the texts of two kinds differ in what they begin with
  have hlist := congrArg String.toList h
  cases r with
  | ioSignal name =>
    cases s <;> simp at hlist
    rw [String.toList_inj.mp hlist]
  | rapidVariable v =>
    cases s with
    | rapidVariable w =>
      rw [uri_rapidVariable, uri_rapidVariable, String.append_left_inj] at h
      have hw : w.Plain := by
        rcases hs with hw | hname
        · exact hw
        · exact RapidVariable.plain_of_symbolUri hr hname h
      rw [RapidVariable.symbolUri_injective hr hw h]
    | _ => simp at hlist
  | elogDomain domain =>
    cases s with
    | elogDomain other =>
      rw [uri_elogDomain, uri_elogDomain, String.append_right_inj] at h
      rw [UInt32.toNat_inj.mp (Text.repr_injective h)]
    | _ => simp at hlist
  | executionState => cases s <;> simp at hlist ⊢
  | controllerState => cases s <;> simp at hlist ⊢

end Resource

end RobotWeb
