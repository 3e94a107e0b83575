import SpotRebalance.Document.Manifest.Form.Volume

/-! # Forms of containers

What a container runs, with its environment, probes, resources and security, and its status. -/

namespace SpotRebalance.ManifestForm

open Form

/-- A key of a set of keys that may be missing. -/
def optionalKey : Form := record (texts ["key", "name"] ++ [("optional", truth)])

/-- A variable of the environment. -/
def environmentVariable : Form :=
  record (texts ["name", "value"] ++
    [("valueFrom",
      record [("configMapKeyRef", optionalKey), ("secretKeyRef", optionalKey),
        ("fieldRef", podField),
        ("resourceFieldRef", containerResource)])])

/-- A set of variables. -/
def variableSet : Form :=
  let source := record [("name", text), ("optional", truth)]
  record [("prefix", text), ("configMapRef", source), ("secretRef", source)]

/-- A command. -/
def command : Form := record [("command", textList)]

/-- A request over HTTP. -/
def httpRequest : Form :=
  record (texts ["host", "path", "scheme"] ++
    [("httpHeaders", listOf (textRecord ["name", "value"])), ("port", int32OrText)])

/-- A connection. -/
def connection : Form := record [("host", text), ("port", int32OrText)]

/-- What is done when a container starts or ends. -/
def lifecycleAction : Form :=
  record [("exec", command), ("httpGet", httpRequest), ("sleep", record [("seconds", int64)]),
    ("tcpSocket", connection)]

/-- A probe of a container. -/
def probe : Form :=
  record (each int32
      ["failureThreshold", "initialDelaySeconds", "periodSeconds", "successThreshold",
        "timeoutSeconds"] ++
    [("exec", command), ("grpc", record [("port", int32), ("service", text)]),
      ("httpGet", httpRequest),
      ("tcpSocket", connection), ("terminationGracePeriodSeconds", int64)])

/-- What a container may use. -/
def containerResources : Form :=
  record (("claims", listOf (textRecord ["name"])) :: limitsAndRequests)

/-- The fields of security that pods and containers share. -/
def commonSecurity : Fields :=
  let profile := textRecord ["localhostProfile", "type"]
  each int64 ["runAsGroup", "runAsUser"] ++
    [("appArmorProfile", profile), ("seccompProfile", profile), ("runAsNonRoot", truth),
      ("seLinuxOptions", textRecord ["level", "role", "type", "user"]),
      ("windowsOptions",
        record (texts ["gmsaCredentialSpec", "gmsaCredentialSpecName", "runAsUserName"] ++
          [("hostProcess", truth)]))]

/-- The security of a container. -/
def containerSecurity : Form :=
  record (commonSecurity ++
    each truth ["allowPrivilegeEscalation", "privileged", "readOnlyRootFilesystem"] ++
    [("capabilities", record (each textList ["add", "drop"])), ("procMount", text)])

/-- A port. -/
def port : Form :=
  record (texts ["hostIP", "name", "protocol"] ++ each int32 ["containerPort", "hostPort"])

/-- A place where a volume is mounted. -/
def volumeMount : Form :=
  mounted ["mountPath", "mountPropagation", "name", "recursiveReadOnly", "subPath",
    "subPathExpr"] []

/-- The fields of all containers. -/
def containerFields : Fields :=
  texts
      ["image", "imagePullPolicy", "name", "restartPolicy", "terminationMessagePath",
        "terminationMessagePolicy", "workingDir"] ++
    each textList ["args", "command"] ++
      each probe ["livenessProbe", "readinessProbe", "startupProbe"] ++
    each truth ["stdin", "stdinOnce", "tty"] ++
    [("env", listOf environmentVariable), ("envFrom", listOf variableSet),
      ("lifecycle", record (each lifecycleAction ["postStart", "preStop"])), ("ports", listOf port),
      ("resizePolicy", listOf (textRecord ["resourceName", "restartPolicy"])),
      ("resources", containerResources), ("securityContext", containerSecurity),
      ("volumeDevices", listOf (textRecord ["devicePath", "name"])),
      ("volumeMounts", listOf volumeMount)]

/-- A container. -/
def container : Form := record containerFields

/-- A container that is added to a running pod. -/
def ephemeralContainer : Form := record (("targetContainerName", text) :: containerFields)

/-- The state of a container. -/
def containerState : Form :=
  record
    [("running", record [("startedAt", instant)]),
      ("terminated",
        record (texts ["containerID", "message", "reason"] ++ each int32 ["exitCode", "signal"] ++
          each instant ["finishedAt", "startedAt"])),
      ("waiting", textRecord ["message", "reason"])]

/-- The status of a container. -/
def containerStatus : Form :=
  record (texts ["containerID", "image", "imageID", "name"] ++ each truth ["ready", "started"] ++
    each containerState ["lastState", "state"] ++
    [("allocatedResources", quantities), ("resources", containerResources), ("restartCount", int32),
      ("volumeMounts", listOf (mounted ["mountPath", "name", "recursiveReadOnly"] []))])

end SpotRebalance.ManifestForm
