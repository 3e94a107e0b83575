import SpotRebalance.Document.Manifest.Form.Container

/-! # Forms of pods -/

namespace SpotRebalance.ManifestForm

open Form

/-- The field of affinities that should hold when a pod is scheduled. -/
def preferredField : String := "preferredDuringSchedulingIgnoredDuringExecution"

/-- A term of a node selector. -/
def nodeTerm : Form := record (each (listOf expression) ["matchExpressions", "matchFields"])

/-- An affinity to nodes. -/
def nodeAffinity : Form :=
  record
    [(preferredField, listOf (record [("preference", nodeTerm), ("weight", int32)])),
      (requiredField, record [("nodeSelectorTerms", listOf nodeTerm)])]

/-- A group of pods. -/
def podGroup : Form :=
  record (each labelSelector ["labelSelector", "namespaceSelector"] ++
    each textList ["matchLabelKeys", "mismatchLabelKeys", "namespaces"] ++ [("topologyKey", text)])

/-- An affinity to pods. -/
def podAffinity : Form :=
  record
    [(preferredField, listOf (record [("podAffinityTerm", podGroup), ("weight", int32)])),
      (requiredField, listOf podGroup)]

/-- All affinities. -/
def affinity : Form :=
  record (("nodeAffinity", nodeAffinity) :: each podAffinity ["podAffinity", "podAntiAffinity"])

/-- How names are resolved. -/
def nameResolution : Form :=
  record (each textList ["nameservers", "searches"] ++
    [("options", listOf (textRecord ["name", "value"]))])

/-- The security of a pod. -/
def podSecurity : Form :=
  record (commonSecurity ++
    [("fsGroup", int64), ("fsGroupChangePolicy", text), ("supplementalGroups", listOf int64),
      ("sysctls", listOf (textRecord ["name", "value"]))])

/-- A toleration. -/
def toleration : Form :=
  record (texts ["effect", "key", "operator", "value"] ++ [("tolerationSeconds", int64)])

/-- How pods are spread. -/
def spread : Form :=
  record (texts ["nodeAffinityPolicy", "nodeTaintsPolicy", "topologyKey", "whenUnsatisfiable"] ++
    each int32 ["maxSkew", "minDomains"] ++
    [("labelSelector", labelSelector), ("matchLabelKeys", textList)])

/-- A claim to a resource. -/
def resourceClaim : Form :=
  record
    [("name", text), ("source", textRecord ["resourceClaimName", "resourceClaimTemplateName"])]

/-- What a pod asks of the cluster. -/
def podSpec : Form :=
  record (texts
      ["dnsPolicy", "hostname", "nodeName", "preemptionPolicy", "priorityClassName",
        "restartPolicy", "runtimeClassName", "schedulerName", "serviceAccount",
        "serviceAccountName", "subdomain"] ++
    each truth
      ["automountServiceAccountToken", "enableServiceLinks", "hostIPC", "hostNetwork", "hostPID",
        "hostUsers", "setHostnameAsFQDN", "shareProcessNamespace"] ++
    each int64 ["activeDeadlineSeconds", "terminationGracePeriodSeconds"] ++
    each (listOf container) ["containers", "initContainers"] ++
    [("affinity", affinity), ("dnsConfig", nameResolution),
      ("ephemeralContainers", listOf ephemeralContainer),
      ("hostAliases", listOf (record [("hostnames", textList), ("ip", text)])),
      ("imagePullSecrets", listOf localReference), ("nodeSelector", textTable),
      ("os", textRecord ["name"]), ("overhead", quantities), ("priority", int32),
      ("readinessGates", listOf (textRecord ["conditionType"])),
      ("resourceClaims", listOf resourceClaim), ("schedulingGates", listOf (textRecord ["name"])),
      ("securityContext", podSecurity), ("tolerations", listOf toleration),
      ("topologySpreadConstraints", listOf spread), ("volumes", listOf volume)])

/-- A condition of a pod. -/
def podCondition : Form :=
  record (texts ["message", "reason", "status", "type"] ++
    each instant ["lastProbeTime", "lastTransitionTime"])

/-- The status of a pod. -/
def podStatus : Form :=
  record (texts
      ["hostIP", "message", "nominatedNodeName", "phase", "podIP", "qosClass", "reason",
        "resize"] ++
    each (listOf containerStatus)
      ["containerStatuses", "ephemeralContainerStatuses", "initContainerStatuses"] ++
    each (listOf (textRecord ["ip"])) ["hostIPs", "podIPs"] ++
    [("conditions", listOf podCondition),
      ("resourceClaimStatuses", listOf (textRecord ["name", "resourceClaimName"])),
      ("startTime", instant)])

/-- A pod. -/
def pod : Form := object "v1" "Pod" podSpec podStatus

end SpotRebalance.ManifestForm
