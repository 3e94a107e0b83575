import SpotRebalance.Document.Manifest.Form.Meta

/-! # Forms of volumes

The many sources from which a pod can mount a volume. -/

namespace SpotRebalance.ManifestForm

open Form

/-- A reference by name. -/
def localReference : Form := textRecord ["name"]

/-- A key of a volume and the path where it is shown. -/
def keyToPath : Form := record (texts ["key", "path"] ++ [("mode", int32)])

/-- Keys that may be missing as a whole. -/
def optionalKeys (nameField : String) : Fields :=
  [(nameField, text), ("items", listOf keyToPath), ("optional", truth)]

/-- A field of the pod itself. -/
def podField : Form := textRecord ["apiVersion", "fieldPath"]

/-- A resource of a container. -/
def containerResource : Form := textRecord ["containerName", "divisor", "resource"]

/-- Files that show fields of the pod itself. -/
def podFieldFiles : Form :=
  listOf (record [("fieldRef", podField), ("mode", int32), ("path", text),
    ("resourceFieldRef", containerResource)])

/-- Limits and requests. -/
def limitsAndRequests : Fields := each quantities ["limits", "requests"]

/-- A claim to a persistent volume. -/
def volumeClaim : Form :=
  record (texts ["storageClassName", "volumeAttributesClassName", "volumeMode", "volumeName"] ++
    [("accessModes", textList), ("dataSource", textRecord ["apiGroup", "kind", "name"]),
      ("dataSourceRef", textRecord ["apiGroup", "kind", "name", "namespace"]),
      ("resources", record limitsAndRequests), ("selector", labelSelector)])

/-- One of several sources that share a volume. -/
def projection : Form :=
  record
    [("clusterTrustBundle",
        record (texts ["name", "path", "signerName"] ++
          [("labelSelector", labelSelector), ("optional", truth)])),
      ("configMap", record (optionalKeys "name")), ("secret", record (optionalKeys "name")),
      ("downwardAPI", record [("items", podFieldFiles)]),
      ("serviceAccountToken",
        record (texts ["audience", "path"] ++ [("expirationSeconds", int64)]))]

/-- A source that may be mounted for reading only. -/
def mounted (textFields : List String) (more : Fields) : Form :=
  record (texts textFields ++ ("readOnly", truth) :: more)

/-- The secret with which a source is opened. -/
def secretReference : Fields := [("secretRef", localReference)]

/-- Sources that cloud providers offer. -/
def cloudSources : Fields :=
  [("awsElasticBlockStore", mounted ["fsType", "volumeID"] [("partition", int32)]),
    ("azureDisk", mounted ["cachingMode", "diskName", "diskURI", "fsType", "kind"] []),
    ("azureFile", mounted ["secretName", "shareName"] []),
    ("cinder", mounted ["fsType", "volumeID"] secretReference),
    ("gcePersistentDisk", mounted ["fsType", "pdName"] [("partition", int32)]),
    ("photonPersistentDisk", textRecord ["fsType", "pdID"]),
    ("portworxVolume", mounted ["fsType", "volumeID"] []),
    ("vsphereVolume", textRecord ["fsType", "storagePolicyID", "storagePolicyName", "volumePath"])]

/-- Sources on a network. -/
def networkSources : Fields :=
  [("cephfs", mounted ["path", "secretFile", "user"] (("monitors", textList) :: secretReference)),
    ("fc", mounted ["fsType"] [("lun", int32), ("targetWWNs", textList), ("wwids", textList)]),
    ("flocker", textRecord ["datasetName", "datasetUUID"]),
    ("glusterfs", mounted ["endpoints", "path"] []),
    ("iscsi",
      mounted ["fsType", "initiatorName", "iqn", "iscsiInterface", "targetPortal"]
        (each truth ["chapAuthDiscovery", "chapAuthSession"] ++
          [("lun", int32), ("portals", textList)] ++
          secretReference)),
    ("nfs", mounted ["path", "server"] []),
    ("quobyte", mounted ["group", "registry", "tenant", "user", "volume"] []),
    ("rbd",
      mounted ["fsType", "image", "keyring", "pool", "user"]
        (("monitors", textList) :: secretReference)),
    ("scaleIO",
      mounted
        ["fsType", "gateway", "protectionDomain", "storageMode", "storagePool", "system",
          "volumeName"]
        (("sslEnabled", truth) :: secretReference)),
    ("storageos", mounted ["fsType", "volumeName", "volumeNamespace"] secretReference)]

/-- Sources within the cluster. -/
def clusterSources : Fields :=
  [("configMap", record (("defaultMode", int32) :: optionalKeys "name")),
    ("secret", record (("defaultMode", int32) :: optionalKeys "secretName")),
    ("csi",
      mounted ["driver", "fsType"]
        [("nodePublishSecretRef", localReference), ("volumeAttributes", textTable)]),
    ("downwardAPI", record [("defaultMode", int32), ("items", podFieldFiles)]),
    ("emptyDir", textRecord ["medium", "sizeLimit"]),
    ("ephemeral",
      record [("volumeClaimTemplate", record [("metadata", metadata), ("spec", volumeClaim)])]),
    ("flexVolume", mounted ["driver", "fsType"] (("options", textTable) :: secretReference)),
    ("gitRepo", textRecord ["directory", "repository", "revision"]),
    ("hostPath", textRecord ["path", "type"]),
    ("persistentVolumeClaim", mounted ["claimName"] []),
    ("projected", record [("defaultMode", int32), ("sources", listOf projection)])]

/-- A volume. -/
def volume : Form := record (("name", text) :: cloudSources ++ networkSources ++ clusterSources)

end SpotRebalance.ManifestForm
