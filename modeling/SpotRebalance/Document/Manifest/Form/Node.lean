import SpotRebalance.Document.Manifest.Form.Meta

/-! # Forms of nodes -/

namespace SpotRebalance.ManifestForm

open Form

/-- Where the configuration of a node comes from. -/
def nodeConfigSource : Form :=
  record [("configMap",
    textRecord ["kubeletConfigKey", "name", "namespace", "resourceVersion", "uid"])]

/-- A taint. -/
def taint : Form := record (texts ["effect", "key", "value"] ++ [("timeAdded", instant)])

/-- How a node is set up. -/
def nodeSpec : Form :=
  record (texts ["externalID", "podCIDR", "providerID"] ++
    [("configSource", nodeConfigSource), ("podCIDRs", textList), ("taints", listOf taint),
      ("unschedulable", truth)])

/-- A condition of a node. -/
def nodeCondition : Form :=
  record (texts ["message", "reason", "status", "type"] ++
    each instant ["lastHeartbeatTime", "lastTransitionTime"])

/-- What runs on a node. -/
def nodeInfo : Form :=
  textRecord
    ["architecture", "bootID", "containerRuntimeVersion", "kernelVersion", "kubeProxyVersion",
      "kubeletVersion", "machineID", "operatingSystem", "osImage", "systemUUID"]

/-- The status of a node. -/
def nodeStatus : Form :=
  record (each quantities ["allocatable", "capacity"] ++
    [("addresses", listOf (textRecord ["address", "type"])), ("conditions", listOf nodeCondition),
      ("config",
        record (("error", text) :: each nodeConfigSource ["active", "assigned", "lastKnownGood"])),
      ("daemonEndpoints", record [("kubeletEndpoint", record [("Port", int32)])]),
      ("images", listOf (record [("names", textList), ("sizeBytes", int64)])),
      ("nodeInfo", nodeInfo), ("phase", text),
      ("runtimeHandlers",
        listOf (record [("features", record [("recursiveReadOnlyMounts", truth)]),
          ("name", text)])),
      ("volumesAttached", listOf (textRecord ["devicePath", "name"])), ("volumesInUse", textList)])

/-- A node. -/
def node : Form := object "v1" "Node" nodeSpec nodeStatus

end SpotRebalance.ManifestForm
