import ObsPlatform.Regressions.Course
import ObsPlatform.Regressions.Slices

/-!
# Linked runs sit in slots

The runner links a run under the id of its slot and to the regression whose slot it is. A
snapshot ingested later keeps the regression and the repetition, so a linked run stays in
its slot, and a regression never has more linked runs than slots.
-/

namespace ObsPlatform.Regressions

open Telemetry Db Evaluation Ingestion Platform

/-- A linked run is the run of a slot of the regression it is linked to. -/
def InSlot (store : Store) (run : AgentRun) : Prop :=
  ∀ regressionRunId, run.regressionRunId = some regressionRunId →
    ∃ regression, store.regressionRuns.find? regressionRunId = some regression ∧
      ∃ slot ∈ slots regression.scenarioIds regression.repetitions,
        run.runId = regressionRunEventId regressionRunId slot.scenarioId slot.repetitionIndex ∧
          run.repetitionIndex = some slot.repetitionIndex

def LinkedInSlots (store : Store) : Prop := ∀ run ∈ store.agentRuns.rows, InSlot store run

/-- Once linked, a run stays linked to its regression, as the same repetition. -/
def LinkageKept (store store' : Store) : Prop :=
  ∀ runId row, store.agentRuns.find? runId = some row → row.regressionRunId.isSome →
    ∃ row', store'.agentRuns.find? runId = some row' ∧
      row'.regressionRunId = row.regressionRunId ∧ row'.repetitionIndex = row.repetitionIndex

theorem linkageKept_same (store store' : Store) (h : store'.agentRuns = store.agentRuns) :
    LinkageKept store store' := by
  intro runId row hrow _
  exact ⟨row, h ▸ hrow, rfl, rfl⟩

theorem linkageKept_trans (a b c : Store) (hab : LinkageKept a b) (hbc : LinkageKept b c) :
    LinkageKept a c := by
  intro runId row hrow hlinked
  obtain ⟨row', hrow', hregression, hrepetition⟩ := hab runId row hrow hlinked
  obtain ⟨row'', hrow'', hregression', hrepetition'⟩ := hbc runId row' hrow' (hregression ▸ hlinked)
  exact ⟨row'', hrow'', hregression'.trans hregression, hrepetition'.trans hrepetition⟩

/-! ### What keeps linked runs in their slots -/

theorem inSlot_congr (store : Store) (run run' : AgentRun) (hid : run'.runId = run.runId)
    (hregression : run'.regressionRunId = run.regressionRunId)
    (hrepetition : run'.repetitionIndex = run.repetitionIndex) (h : InSlot store run) :
    InSlot store run' := by
  intro regressionRunId hlinked
  obtain ⟨regression, hstored, slot, hslot, hrun, hindex⟩ := h regressionRunId (hregression ▸ hlinked)
  exact ⟨regression, hstored, slot, hslot, hid.trans hrun, hrepetition.trans hindex⟩

theorem inSlot_course (may : ℕ → Prop) (store store' : Store) (h : Course may store store')
    (run : AgentRun) (hslot : InSlot store run) : InSlot store' run := by
  intro regressionRunId hlinked
  obtain ⟨regression, hstored, slot, hslot, hrun, hindex⟩ := hslot regressionRunId hlinked
  obtain ⟨regression', hstored', hmoved⟩ := course_row may store store' h _ regression hstored
  have hsame := (continues_of_steps regression regression' hmoved).metadata
  refine ⟨regression', hstored', slot, ?_, hrun, hindex⟩
  rw [hsame]
  exact hslot

/-- Whatever leaves the runs alone leaves them in their slots. -/
theorem linkedInSlots_course (may : ℕ → Prop) (store store' : Store)
    (h : Course may store store') (hruns : store'.agentRuns = store.agentRuns)
    (hslots : LinkedInSlots store) : LinkedInSlots store' := by
  intro run hrun
  rw [hruns] at hrun
  exact inSlot_course may store store' h run (hslots run hrun)

section Ingest
variable (event : ExtendedRunEvent) (now : Timestamp) (store store' : Store)
  (heffect : ingestEffect event now store = .ok store')
include heffect

theorem ingest_linkageKept : LinkageKept store store' := by
  intro runId row hrow _
  have hstored := ingestEffect_agentRuns event now store store' heffect runId
  by_cases hrun : runId = event.runId
  · subst hrun
    rw [if_pos rfl, hrow, Option.elim_some] at hstored
    exact ⟨_, hstored, rfl, rfl⟩
  · rw [if_neg hrun, hrow] at hstored
    exact ⟨row, hstored, rfl, rfl⟩

theorem ingest_linkedInSlots (hslots : LinkedInSlots store) : LinkedInSlots store' := by
  intro run hrun
  have hfind := find?_of_mem store' run hrun
  have hregressions := ingestEffect_regressionRuns event now store store' heffect
  rw [ingestEffect_agentRuns event now store store' heffect] at hfind
  apply inSlot_course (fun _ => False) store store' (course_same _ store store' hregressions)
  by_cases hid : run.runId = event.runId
  · rw [if_pos hid, Option.some.injEq] at hfind
    cases hstored : store.agentRuns.find? event.runId with
    | none =>
      rw [hstored, Option.elim_none] at hfind
      intro regressionRunId hlinked
      rw [← hfind] at hlinked
      cases hlinked
    | some old =>
      rw [hstored, Option.elim_some] at hfind
      have hold := Table.key_of_find? _ _ old hstored
      have hslot := hslots old (Table.mem_of_find? _ _ old hstored)
      refine inSlot_congr store old run (hid.trans hold.symm) ?_ ?_ hslot <;> rw [← hfind] <;> rfl
  · rw [if_neg hid] at hfind
    exact hslots run (Table.mem_of_find? _ _ run hfind)

end Ingest

section Link
variable (regressionRunId : ℕ) (slot : Slot) (now : Timestamp) (store : Store)
  (regression : RegressionRun)
  (hstored : store.regressionRuns.find? regressionRunId = some regression)
  (hslot : slot ∈ slots regression.scenarioIds regression.repetitions)

/-- The linkage of a slot. -/
def slotLinked : Store :=
  updateLinkage (regressionRunEventId regressionRunId slot.scenarioId slot.repetitionIndex)
    regressionRunId slot.scenarioId slot.repetitionIndex now store

include hstored hslot in
theorem link_linkedInSlots (hslots : LinkedInSlots store) :
    LinkedInSlots (slotLinked regressionRunId slot now store) := by
  intro run hrun
  have hcases := Table.mem_modify store.agentRuns _
    (linkAgentRun regressionRunId slot.scenarioId slot.repetitionIndex now) (fun _ h => h) run hrun
  rcases hcases with hold | ⟨old, _, hkey, rfl⟩
  · exact hslots run hold
  · intro otherId hlinked
    cases hlinked
    exact ⟨regression, hstored, slot, hslot, hkey, rfl⟩

/-- A run that is linked already is linked to the same slot again. -/
theorem link_linkageKept (hslots : LinkedInSlots store) :
    LinkageKept store (slotLinked regressionRunId slot now store) := by
  intro runId row hrow hlinked
  have hfind := updateLinkage_find? (regressionRunEventId regressionRunId slot.scenarioId
    slot.repetitionIndex) regressionRunId slot.scenarioId slot.repetitionIndex now store runId
  by_cases hrun : runId = regressionRunEventId regressionRunId slot.scenarioId slot.repetitionIndex
  · subst hrun
    rw [if_pos rfl, hrow, Option.map_some] at hfind
    obtain ⟨oldId, hold⟩ := Option.isSome_iff_exists.mp hlinked
    obtain ⟨_, _, oldSlot, _, hid, hindex⟩ :=
      hslots row (Table.mem_of_find? _ _ row hrow) oldId hold
    have hkey := Table.key_of_find? _ _ row hrow
    obtain ⟨hregression, _, hrepetition⟩ := regressionRunEventId_inj _ _ _ _ _ _ (hkey.symm.trans hid)
    refine ⟨_, hfind, ?_, ?_⟩
    · rw [hold, ← hregression]
      rfl
    · rw [hindex, ← hrepetition]
      rfl
  · rw [if_neg hrun, hrow] at hfind
    exact ⟨row, hfind, rfl, rfl⟩

end Link

/-! ### No more runs than slots -/

/-- The slot of each linked run is its own. -/
theorem linkedRuns_length (store : Store) (hslots : LinkedInSlots store) (regressionRunId : ℕ)
    (regression : RegressionRun)
    (hstored : store.regressionRuns.find? regressionRunId = some regression) :
    (linkedRuns regressionRunId store).length ≤
      regression.scenarioIds.length * regression.repetitions := by
  rw [← slots_length]
  have hids : ((linkedRuns regressionRunId store).map AgentRun.runId).Nodup :=
    store.agentRuns.unique.sublist (List.filter_sublist.map AgentRun.runId)
  have hsubset : (linkedRuns regressionRunId store).map AgentRun.runId ⊆
      (slots regression.scenarioIds regression.repetitions).map fun slot =>
        regressionRunEventId regressionRunId slot.scenarioId slot.repetitionIndex := by
    intro runId hmem
    obtain ⟨run, hrun, rfl⟩ := List.mem_map.mp hmem
    obtain ⟨hrow, hlinked⟩ := List.mem_filter.mp hrun
    obtain ⟨found, hfound, slot, hslot, hid, _⟩ :=
      hslots run hrow regressionRunId (of_decide_eq_true hlinked)
    rw [hstored, Option.some.injEq] at hfound
    exact List.mem_map.mpr ⟨slot, hfound ▸ hslot, hid.symm⟩
  have hlength := (hids.subperm hsubset).length_le
  rwa [List.length_map, List.length_map] at hlength

end ObsPlatform.Regressions
