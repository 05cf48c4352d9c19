import ProviderRegistry.Journal

/-!
# What a log holds

The log of a run holds lines about what the run told, and in front of them the warnings about its
options. What is told is made of strings, but a warning shows a value as it was given, and a value
may hold surrogates. So a text that a run keeps as its log (`Options.Logs`) has octets unless a
switch has such a value: where none has, the options are **loggable** (`Logs.isWhole`). A log that
is turned off is empty (`Logs.eq_empty`).
-/

namespace ProviderRegistry

/-! ### Options that can be logged -/

namespace Options

variable {options : Options}

/-- Options are **loggable** when no switch has a value with surrogates. -/
def Loggable (options : Options) : Prop :=
  ∀ name ∈ switchNames, ∀ value ∈ (options.given? name).join, value.isWhole = true

instance (options : Options) : Decidable options.Loggable :=
  inferInstanceAs (Decidable (∀ name ∈ _, ∀ value ∈ _, _))

/-- A value that is not understood is one that was given. -/
theorem mem_join_of_unrecognized?_eq_some {name : String} {value : RawText}
    (h : options.unrecognized? name = some value) : value ∈ (options.given? name).join := by
  rw [unrecognized?] at h
  split at h
  · rename_i given hgiven
    split at h
    · cases h
    · obtain rfl := Option.some.inj h
      rw [hgiven]
      rfl
  · cases h

/-- A value that is understood is whole. -/
theorem isWhole_of_unrecognized?_eq_none {name : String} {value : RawText}
    (h : options.unrecognized? name = none) (hvalue : value ∈ (options.given? name).join) :
    value.isWhole = true := by
  have hgiven : options.given? name = some (some value) := Option.join_eq_some_iff.mp hvalue
  rw [unrecognized?, hgiven] at h
  dsimp only at h
  split at h
  · rename_i hspells
    have hwhole : ∀ word, spells value word = true → value.isWhole = true := fun word hword =>
      (Bool.and_eq_true_iff.mp hword).1
    exact (Bool.or_eq_true_iff.mp hspells).elim (hwhole _) (hwhole _)
  · cases h

/-- The warnings about loggable options are whole. -/
theorem Loggable.isWhole_of_mem_warnings (h : options.Loggable) {warning : RawText}
    (hwarning : warning ∈ options.warnings) : warning.isWhole = true := by
  obtain ⟨name, hname, hwarned⟩ := List.mem_filterMap.mp hwarning
  obtain ⟨value, hvalue, rfl⟩ := Option.map_eq_some_iff.mp hwarned
  have hwhole := h name hname value (mem_join_of_unrecognized?_eq_some hvalue)
  simp [hwhole]

end Options

/-! ### The texts of logs -/

namespace Journal

variable {options : Options}

/-- A line of the log is whole when its text is. -/
theorem isWhole_of_mem_lineLogged {place : Place} {text line : RawText}
    (htext : text.isWhole = true)
    (h : line ∈ lineLogged options place text) : line.isWhole = true := by
  rw [lineLogged] at h
  split at h
  · rw [List.mem_singleton.mp h]
    simp [htext]
  · exact absurd h List.not_mem_nil

/-- What an event leaves in the log is whole, since its text is a string. -/
theorem isWhole_of_mem_logged {event : Event} {line : RawText} (h : line ∈ logged options event) :
    line.isWhole = true := by
  cases event with
  | note place text => exact isWhole_of_mem_lineLogged (RawText.isWhole_coe text) h
  | warning place text => exact isWhole_of_mem_lineLogged (by simp) h
  | diagnosed d => exact absurd h List.not_mem_nil

/-- So is what the warnings about loggable options leave in it. -/
theorem isWhole_of_mem_log_start (hloggable : options.Loggable) {line : RawText}
    (h : line ∈ (start options).log) : line.isWhole = true := by
  obtain ⟨warning, hwarning, hline⟩ := List.mem_flatMap.mp h
  refine isWhole_of_mem_lineLogged ?_ hline
  simp [hloggable.isWhole_of_mem_warnings hwarning]

/-- A log that is turned off stays empty. -/
theorem log_recordAll_of_off (hoff : options.log = false) (told : List Event) :
    ((start options).recordAll told).log = [] := by
  have hline : ∀ place text, lineLogged options place text = [] := fun place text => by
    simp [lineLogged, hoff]
  have hstart : (start options).log = [] :=
    List.flatMap_eq_nil_iff.mpr fun warning _ => hline .both _
  have hlogged : told.flatMap (logged options) = [] :=
    List.flatMap_eq_nil_iff.mpr fun event _ => by
      cases event with
      | note place text => exact hline place text
      | warning place text => exact hline place _
      | diagnosed d => rfl
  rw [recordAll_eq, hstart]
  exact hlogged

end Journal

namespace Options

variable {options : Options} {text : RawText}

/-- A text is what a run under some options **logs** when it is its log after some events. -/
def Logs (options : Options) (text : RawText) : Prop :=
  ∃ told, text = ((Journal.start options).recordAll told).logText

/-- Where the options turn the log off there is nothing to keep. -/
theorem Logs.eq_empty (h : options.Logs text) (hoff : options.log = false) : text = "" := by
  obtain ⟨told, rfl⟩ := h
  rw [Journal.logText, Journal.log_recordAll_of_off hoff]
  rfl

/-- **A log has octets** where it is turned off, or the options are loggable. -/
theorem Logs.isWhole (h : options.Logs text) (hloggable : options.log = true → options.Loggable) :
    text.isWhole = true := by
  cases hlog : options.log with
  | false =>
    rw [h.eq_empty hlog]
    exact RawText.isWhole_coe ""
  | true =>
    obtain ⟨told, rfl⟩ := h
    refine RawText.isWhole_join.mpr fun line hline => ?_
    rw [Journal.recordAll_eq] at hline
    rcases List.mem_append.mp hline with hstart | htold
    · exact Journal.isWhole_of_mem_log_start (hloggable hlog) hstart
    · obtain ⟨event, -, hevent⟩ := List.mem_flatMap.mp htold
      exact Journal.isWhole_of_mem_logged hevent

end Options

end ProviderRegistry
