/-
**Those who look for problems in samples.**

The samples are looked at by the analyzer with its rules, or by someone whose findings are given
beforehand: each look then has the next of them as its outcome, and the last one repeats.
-/
import HostWatch.Problem.Analyzer

namespace HostWatch

/-- Who looks for problems in the samples. -/
inductive Analyst where
  | rules (analyzer : Analyzer)
  | given (outcomes : List (Except Failure (List Report)))

namespace Analyst

def configure (analyst : Analyst) (config : Config) : Analyst :=
  match analyst with
  | rules analyzer => rules { analyzer with config := config }
  | given outcomes => given outcomes

/-- Takes over the plan by which the samples are taken. -/
def follow (analyst : Analyst) (plan : SamplingPlan) : Analyst :=
  match analyst with
  | rules analyzer => rules { analyzer with plan := plan }
  | given outcomes => given outcomes

def next (analyst : Analyst) : Analyst :=
  match analyst with
  | given (_ :: outcome :: rest) => given (outcome :: rest)
  | other => other

def problems (analyst : Analyst) (samples : List Sample) : Probe (List Report) :=
  match analyst with
  | rules analyzer => analyzer.problems samples
  | given [] => return []
  | given (outcome :: _) => Probe.ofExcept outcome

end Analyst

end HostWatch
