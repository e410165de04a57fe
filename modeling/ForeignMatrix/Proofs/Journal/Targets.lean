import ForeignMatrix.Journal.Record
import Mathlib

/-!
# Targets that records report

A filter decides on the target of an event before the fields of the event are read.
The record then reports the last target among the fields, which a line that came
over the bridge needs and no other event should bring along. Records are truthful
exactly as long as no event that passes brings along another one than its own.
-/

namespace ForeignMatrix

/-! ### What fields say about the target -/

/-- Name of the field that carries the target of a bridged line. -/
def bridgeField : String := "log.target"

/-- Texts of the fields of that name, in order. -/
def claimedTargets (fields : List (String × FieldValue)) : List String :=
  fields.filterMap fun field =>
    if field.1 = bridgeField then some (RecordValue.ofField field.2).plain else none

/-- A field of the name replaces the target that is gathered; no other field does. -/
theorem Gathering.target_push (gathering : Gathering) (name : String) (value : FieldValue) :
    (gathering.push name value).target =
      if name = bridgeField then some (RecordValue.ofField value).plain else gathering.target := by
  rw [push, bridgeField]
  by_cases hmessage : name = "message"
  · subst hmessage
    rfl
  · by_cases htarget : name = "log.target"
    · rw [if_neg hmessage, if_pos htarget, if_pos htarget]
    · rw [if_neg hmessage, if_neg htarget, if_neg htarget]
      split_ifs <;> rfl

/-- Fields leave the last target that they claim, or else the one that there was. -/
theorem Gathering.target_foldl (fields : List (String × FieldValue)) (gathering : Gathering) :
    (fields.foldl (fun gathering field => gathering.push field.1 field.2) gathering).target =
      (claimedTargets fields).getLast?.or gathering.target := by
  induction fields generalizing gathering with
  | nil => rfl
  | cons field fields ih =>
    rw [List.foldl_cons, ih, target_push]
    by_cases hname : field.1 = bridgeField
    · have hclaimed : claimedTargets (field :: fields) =
          (RecordValue.ofField field.2).plain :: claimedTargets fields :=
        List.filterMap_cons_some (if_pos hname)
      rw [if_pos hname, hclaimed, List.getLast?_cons]
      cases (claimedTargets fields).getLast? <;> rfl
    · have hclaimed : claimedTargets (field :: fields) = claimedTargets fields :=
        List.filterMap_cons_none (if_neg hname)
      rw [if_neg hname, hclaimed]

/-- A record reports the last target that the fields claim, or else the one of the event. -/
theorem Record.target_ofEvent (event : Event) :
    (ofEvent event).target = (claimedTargets event.fields).getLast?.getD event.statedTarget := by
  have hgathered : (Gathering.ofFields event.fields).target =
      (claimedTargets event.fields).getLast? := by
    rw [Gathering.ofFields, Gathering.target_foldl, Option.or_none]
  rw [ofEvent, hgathered]

/-! ### What records report -/

/-- Whether an event that did not come over the bridge claims another target than its own. -/
def Event.Forges : Event → Prop
  | .direct _ target _ fields _ => ∃ claimed ∈ (claimedTargets fields).getLast?, claimed ≠ target
  | .bridged .. => False

/-- A record reports the target that the filter decided on unless the event forges another. -/
theorem Record.target_eq_iff (event : Event) :
    (ofEvent event).target = event.subject.target ↔ ¬ event.Forges := by
  rw [target_ofEvent]
  cases event with
  | direct level target name fields spans =>
    change (claimedTargets fields).getLast?.getD target = target ↔ _
    rw [Event.Forges]
    cases (claimedTargets fields).getLast? <;> simp
  | bridged line origin =>
    have hclaimed : claimedTargets (Event.bridged line origin).fields = [line.target] := by
      obtain ⟨modulePath, file, number⟩ := origin
      cases modulePath <;> cases file <;> cases number <;> rfl
    rw [hclaimed]
    exact ⟨fun _ => not_false, fun _ => rfl⟩

/-- Events that a filter lets pass, in order. -/
def Filter.passing (filter : Filter) (events : List Event) : List Event :=
  events.filter fun event => filter.enables event.subject

/-- A record is truthful about an event if it reports the target and the level that the filter
decided on, and so what the filter lets pass. -/
structure Truthful (filter : Filter) (event : Event) (record : Record) : Prop where
  /-- The target is that of the event. -/
  target : record.target = event.subject.target
  /-- So is the level. -/
  level : record.level = event.subject.level
  /-- The filter lets pass what is reported. -/
  enabled : filter.enables
    { event.subject with target := record.target, level := record.level } = true

/-- The record of an event that passes is truthful unless the event forges its target. -/
theorem truthful_ofEvent_iff {filter : Filter} {event : Event}
    (hpass : filter.enables event.subject = true) :
    Truthful filter event (Record.ofEvent event) ↔ ¬ event.Forges := by
  refine ⟨fun h => (Record.target_eq_iff event).mp h.target, fun hforges => ?_⟩
  have htarget := (Record.target_eq_iff event).mpr hforges
  have hlevel : (Record.ofEvent event).level = event.subject.level := by cases event <;> rfl
  refine ⟨htarget, hlevel, ?_⟩
  rw [htarget, hlevel]
  exact hpass

/-- Records reach the hook one for each event that passes, in order, and all of them are truthful
exactly if none of these events forges its target. -/
theorem records_truthful_iff (filter : Filter) (events : List Event) :
    List.Forall₂ (Truthful filter) (filter.passing events) (filter.records events) ↔
      ∀ event ∈ filter.passing events, ¬ event.Forges := by
  have hrecords : filter.records events = (filter.passing events).map Record.ofEvent := rfl
  rw [hrecords, List.forall₂_map_right_iff, List.forall₂_same]
  refine forall₂_congr fun event hevent => ?_
  exact truthful_ofEvent_iff (List.mem_filter.mp hevent).2

/-- An event that passes is reported under a target that the filter does not let pass. -/
theorem forged_target_reported :
    let filter : Filter := [⟨"oracle::lf", none, none, Level.info.rank⟩]
    let event : Event := .direct .info "oracle::lf" "evt"
      [("message", .debug "spoofed"), ("log.target", .text "forged"), ("log.line", .int 5),
        ("log.other", .text "x"), ("logger", .int 1)] []
    filter.records [event] = [⟨.info, "forged", "spoofed", some [("logger", .int 1)]⟩] ∧
      filter.enables { event.subject with target := "forged" } = false := by
  decide

end ForeignMatrix
