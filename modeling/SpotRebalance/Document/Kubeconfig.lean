import SpotRebalance.Document.Structure
import SpotRebalance.Kubeconfig

/-! # Reading kubeconfig files

A kubeconfig file has a structure, down to what users and extensions look like, although only
clusters and contexts are read. -/

namespace SpotRebalance

namespace KubeconfigStructure

/-- The structure of an extension. -/
def extension : Structure := .record "NamedExtension" [("name", .text), ("extension", .any)] []

/-- The structure of what is said about a cluster. -/
def clusterBody : Structure :=
  .record "Cluster" []
    (Structure.each .text
        ["server", "certificate-authority", "certificate-authority-data", "proxy-url",
          "tls-server-name"] ++
      Structure.each .truth ["insecure-skip-tls-verify", "disable-compression"] ++
      [("extensions", .listOf extension)])

/-- The structure of a cluster. -/
def cluster : Structure := .record "NamedCluster" [("name", .text)] [("cluster", clusterBody)]

/-- The structure of what is said about a context. -/
def contextBody : Structure :=
  .record "Context" [("cluster", .text)]
    (Structure.each .text ["user", "namespace"] ++ [("extensions", .listOf extension)])

/-- The structure of a context. -/
def context : Structure := .record "NamedContext" [("name", .text)] [("context", contextBody)]

/-- The structure of a provider of credentials. -/
def provider : Structure :=
  .record "AuthProviderConfig" [("name", .text)] [("config", .tableOf .text)]

/-- The structure of a program that gives credentials. -/
def program : Structure :=
  .record "ExecConfig" []
    (Structure.each .text ["apiVersion", "command", "installHint"] ++
      [("args", .listOf .text), ("env", .listOf (.tableOf .text)), ("provideClusterInfo", .truth)])

/-- The structure of what is said about a user. -/
def userBody : Structure :=
  .record "AuthInfo" []
    (Structure.each .text
        ["username", "password", "token", "tokenFile", "client-certificate",
          "client-certificate-data", "client-key", "client-key-data", "as"] ++
      [("as-groups", .listOf .text), ("auth-provider", provider), ("exec", program)])

/-- The structure of a user. -/
def user : Structure := .record "NamedAuthInfo" [("name", .text)] [("user", userBody)]

/-- The structure of preferences. -/
def preferences : Structure :=
  .record "Preferences" [] [("colors", .truth), ("extensions", .listOf extension)]

/-- The structure of a kubeconfig file. -/
def file : Structure :=
  .record "Kubeconfig" []
    (Structure.each .text ["current-context", "kind", "apiVersion"] ++
      [("preferences", preferences), ("clusters", .listOf cluster), ("users", .listOf user),
        ("contexts", .listOf context), ("extensions", .listOf extension)])

end KubeconfigStructure

/-- Reads a cluster. -/
def ClusterEntry.ofDocument (d : Document) : ClusterEntry :=
  let fields := d.fieldsOrNone
  let body := fields.recordAt? "cluster"
  let about := body.getD []
  { name := (fields.textAt? "name").getD ""
    present := body.isSome
    server := about.textAt? "server"
    authorityData := about.textAt? "certificate-authority-data"
    authorityFile := about.textAt? "certificate-authority"
    proxy := about.textAt? "proxy-url" }

/-- Reads what a context says. -/
def ContextBody.ofFields (fields : Document.Fields) : ContextBody :=
  { cluster := (fields.textAt? "cluster").getD "", ns := fields.textAt? "namespace" }

/-- Reads a context. -/
def ContextEntry.ofDocument (d : Document) : ContextEntry :=
  let fields := d.fieldsOrNone
  { name := (fields.textAt? "name").getD "",
    body := (fields.recordAt? "context").map ContextBody.ofFields }

/-- Reads a kubeconfig file. -/
def Kubeconfig.ofDocument (d : Document) : Except KubeconfigFault Kubeconfig :=
  match KubeconfigStructure.file d with
  | some fault => .error (.invalidStructure fault.message)
  | none =>
    let fields := d.fieldsOrNone
    .ok {
      clusters := (fields.itemsAt "clusters").map ClusterEntry.ofDocument
      contexts := (fields.itemsAt "contexts").map ContextEntry.ofDocument
      currentContext := fields.textAt? "current-context" }

end SpotRebalance
