import AdmissionRules.Binary64.Cut
import AdmissionRules.Binary64.Layout
import AdmissionRules.Metrics.Basic

set_option autoImplicit false

/-! # Exposition of metrics

The text in which metrics are collected: for each metric its description, its type and its
samples, each on a line of its own, and a mark at the end. -/

namespace AdmissionRules

/-! ## Families -/

inductive MetricType where
  | counter
  | gauge
  | histogram
deriving DecidableEq

def MetricType.name : MetricType → String
  | .counter => "counter"
  | .gauge => "gauge"
  | .histogram => "histogram"

/-- A sample: what is appended to the name of its metric, its labels and its value. -/
structure Sample where
  part : String
  labels : List (String × String)
  value : String
deriving DecidableEq

structure MetricFamily where
  name : String
  description : String
  type : MetricType
  samples : List Sample
deriving DecidableEq

/-! ## Text -/

/-- Durations are written without an exponent from `10⁻⁶` up to `10²¹`, and show a point
    there. -/
def durationLayout : Binary64.Layout :=
  { lowest := some (-5), highest := some 21, wholeMark := true, plusSign := false,
    select := Binary64.cut }

namespace Sample

/-- The labels in braces, or nothing if there is no label. -/
def labelsText : List (String × String) → String
  | [] => ""
  | labels => "\x7b" ++ ",".intercalate (labels.map fun l => l.1 ++ "=\"" ++ l.2 ++ "\"") ++ "\x7d"

def line (name : String) (s : Sample) : String :=
  name ++ s.part ++ labelsText s.labels ++ " " ++ s.value ++ "\n"

end Sample

def MetricFamily.text (f : MetricFamily) : String :=
  "# HELP " ++ f.name ++ " " ++ f.description ++ ".\n" ++ "# TYPE " ++ f.name ++ " " ++ f.type.name
    ++ "\n" ++ String.join (f.samples.map (Sample.line f.name))

/-! ## The metrics of the policy -/

namespace Histogram

/-- The bounds of all buckets as they are written. -/
def boundTexts : List String := bounds.map (·.render durationLayout) ++ ["+Inf"]

def samples (kind : String) (h : Histogram) : List Sample :=
  let label := ("kind", kind)
  { part := "_sum", labels := [label], value := h.sum.render durationLayout }
    :: { part := "_count", labels := [label], value := toString h.count }
    :: (boundTexts.zip (cumulative 0 h.buckets)).map fun (bound, n) =>
      { part := "_bucket", labels := [("le", bound), label], value := toString n }

end Histogram

namespace Metrics

/-- A sample of a counter. -/
def total (labels : List (String × String)) (n : Nat) : Sample :=
  { part := "_total", labels, value := toString n }

/-- A sample of a gauge. -/
def level (labels : List (String × String)) (n : Int) : Sample :=
  { part := "", labels, value := toString n }

/-- The counter of reloads with a result, which is shown once there is one. -/
def reloadSamples (result : String) (n : Nat) : List Sample :=
  if n = 0 then [] else [total [("result", result)] n]

def decisionFamily (m : Metrics) : MetricFamily :=
  { name := "genericvalidator_admission_decisions",
    description := "Total number of admission decisions", type := .counter,
    samples := m.decisions.map fun d => total [("kind", d.1.1), ("reason", d.1.2)] d.2 }

def durationFamily (m : Metrics) : MetricFamily :=
  { name := "genericvalidator_admission_decision_duration_seconds",
    description := "Duration of admission decisions in seconds", type := .histogram,
    samples := m.durations.flatMap fun d => d.2.samples d.1 }

def reloadFamily (m : Metrics) : MetricFamily :=
  { name := "genericvalidator_config_reloads",
    description := "Total number of configuration reloads", type := .counter,
    samples := reloadSamples "failure" m.failedReloads ++ reloadSamples "success" m.reloads }

def generationFamily (m : Metrics) : MetricFamily :=
  { name := "genericvalidator_config_generation",
    description := "Generation of the published rule configuration", type := .gauge,
    samples := [level [] m.lastReload.generation] }

def rulesFamily (m : Metrics) : MetricFamily :=
  { name := "genericvalidator_configured_rules",
    description := "Number of configured rules for each kind", type := .gauge,
    samples := m.lastReload.rules.map fun r => level [("kind", r.1)] r.2 }

def timeFamily (m : Metrics) : MetricFamily :=
  { name := "genericvalidator_config_last_reload_timestamp_seconds",
    description := "Unix time of the last successful configuration reload", type := .gauge,
    samples := [level [] m.lastReload.time] }

def families (m : Metrics) : List MetricFamily :=
  [m.decisionFamily, m.durationFamily, m.reloadFamily, m.generationFamily, m.rulesFamily,
    m.timeFamily]

/-- The text of all metrics. -/
def text (m : Metrics) : String := String.join (m.families.map MetricFamily.text) ++ "# EOF\n"

end Metrics

end AdmissionRules
