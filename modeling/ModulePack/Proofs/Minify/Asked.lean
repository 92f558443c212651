import ModulePack.Minify.Basic

/-!
# What a minifier was asked, and until when

The calls of a minifier are known with the last one first, and a minifier answers by the call and by
those before it, so the calls tell all its answers. Under a label it may be asked until it has given
an answer of some kind, which settles what is asked for. That goes on to hold as long as it is asked
under the label only while that is not settled, whatever it is asked under other labels.
-/

namespace ModulePack

variable {m : Minifier} {label : String} {kind : String → Prop} {calls : List MinifyCall}
  {call : MinifyCall} {P Q : Prop}

def Answered (m : Minifier) (label : String) (kind : String → Prop) (calls : List MinifyCall) :
    Prop :=
  ∃ later call earlier answer, calls = later ++ call :: earlier ∧ call.label = label ∧
    m earlier call = .ok answer ∧ kind answer

/-- Whether no call with a label comes after one of them that was given an answer of a kind. There
is one such answer at most then. -/
def AskedUntil (m : Minifier) (label : String) (kind : String → Prop) (calls : List MinifyCall) :
    Prop :=
  ∀ later call earlier answer, calls = later ++ call :: earlier → call.label = label →
    m earlier call = .ok answer → kind answer → ∀ other ∈ later, other.label ≠ label

theorem answered_cons_iff :
    Answered m label kind (call :: calls) ↔
      (call.label = label ∧ ∃ answer, m calls call = .ok answer ∧ kind answer) ∨
        Answered m label kind calls := by
  constructor
  · rintro ⟨later, other, earlier, answer, hcalls, hlabel, hanswer, hkind⟩
    cases later with
    | nil =>
      obtain ⟨rfl, rfl⟩ := List.cons.inj hcalls
      exact .inl ⟨hlabel, answer, hanswer, hkind⟩
    | cons last later =>
      exact .inr ⟨later, other, earlier, answer, (List.cons.inj hcalls).2, hlabel, hanswer, hkind⟩
  · rintro (⟨hlabel, answer, hanswer, hkind⟩ | ⟨later, other, earlier, answer, rfl, hother⟩)
    · exact ⟨[], call, calls, answer, rfl, hlabel, hanswer, hkind⟩
    · exact ⟨call :: later, other, earlier, answer, rfl, hother⟩

theorem askedUntil_cons_iff :
    AskedUntil m label kind (call :: calls) ↔
      AskedUntil m label kind calls ∧ (call.label = label → ¬ Answered m label kind calls) := by
  constructor
  · intro h
    refine ⟨?_, ?_⟩
    · intro later other earlier answer hcalls hlabel hanswer hkind
      have hall := h (call :: later) other earlier answer (congrArg _ hcalls) hlabel hanswer hkind
      exact (List.forall_mem_cons.1 hall).2
    · rintro hlast ⟨later, other, earlier, answer, rfl, hlabel, hanswer, hkind⟩
      exact h (call :: later) other earlier answer rfl hlabel hanswer hkind call List.mem_cons_self
        hlast
  · rintro ⟨hcalls, hlast⟩ later other earlier answer heq hlabel hanswer hkind
    cases later with
    | nil => exact fun _ hmem => absurd hmem List.not_mem_nil
    | cons last later =>
      obtain ⟨rfl, hrest⟩ := List.cons.inj heq
      refine List.forall_mem_cons.2 ⟨fun hsame => ?_, ?_⟩
      · exact hlast hsame ⟨later, other, earlier, answer, hrest, hlabel, hanswer, hkind⟩
      · exact hcalls later other earlier answer hrest hlabel hanswer hkind

/-- Whether the minifier was asked under a label until it has given an answer of a kind, and
something holds if it has. -/
structure Settles (m : Minifier) (label : String) (kind : String → Prop) (P : Prop)
    (calls : List MinifyCall) : Prop where
  asked : AskedUntil m label kind calls
  holds : Answered m label kind calls → P

namespace Settles

theorem nil : Settles m label kind P [] where
  asked later _ _ _ h := by simp at h
  holds := by
    rintro ⟨later, _, _, _, h, -⟩
    simp at h

theorem mono (h : Settles m label kind P calls) (hPQ : P → Q) : Settles m label kind Q calls :=
  ⟨h.asked, fun hanswered => hPQ (h.holds hanswered)⟩

theorem other (h : Settles m label kind P calls) (hlabel : call.label ≠ label) :
    Settles m label kind P (call :: calls) where
  asked := askedUntil_cons_iff.2 ⟨h.asked, fun hsame => absurd hsame hlabel⟩
  holds hanswered := by
    rcases answered_cons_iff.1 hanswered with ⟨hsame, -⟩ | hanswered
    · exact absurd hsame hlabel
    · exact h.holds hanswered

/-- As long as it is not settled, it may be asked once more. -/
theorem ask (h : Settles m label kind P calls) (hopen : ¬ P)
    (hanswer : ∀ answer, m calls call = .ok answer → kind answer → Q) :
    Settles m label kind Q (call :: calls) where
  asked := askedUntil_cons_iff.2 ⟨h.asked, fun _ hanswered => hopen (h.holds hanswered)⟩
  holds hanswered := by
    rcases answered_cons_iff.1 hanswered with ⟨-, answer, hok, hkind⟩ | hanswered
    · exact hanswer answer hok hkind
    · exact absurd (h.holds hanswered) hopen

end Settles

end ModulePack
