import ResumableWatch.Text.Letter
import ResumableWatch.Text.Quoted
/-!
# Kinds of resources

What can be watched: for each kind the API group, the model of its objects, and the operations that
list it.  A kind without a listing per namespace is cluster-scoped.
-/

namespace ResumableWatch

open Text

/-- How one kind of resource is listed. -/
structure Kind where
  name : String
  api : String
  model : String
  clusterListing : String
  namespacedListing : Option String := none
  deriving DecidableEq

namespace Kind

/-- Whether the objects of the kind live in namespaces. -/
def isNamespaced (k : Kind) : Bool := k.namespacedListing.isSome

/-- All kinds, by name. -/
def all : List Kind := [
  { name := "configmap", api := "CoreV1Api", model := "V1ConfigMap",
    clusterListing := "list_config_map_for_all_namespaces",
    namespacedListing := some "list_namespaced_config_map" },
  { name := "daemonset", api := "AppsV1Api", model := "V1DaemonSet",
    clusterListing := "list_daemon_set_for_all_namespaces",
    namespacedListing := some "list_namespaced_daemon_set" },
  { name := "deployment", api := "AppsV1Api", model := "V1Deployment",
    clusterListing := "list_deployment_for_all_namespaces",
    namespacedListing := some "list_namespaced_deployment" },
  { name := "event", api := "CoreV1Api", model := "CoreV1Event",
    clusterListing := "list_event_for_all_namespaces",
    namespacedListing := some "list_namespaced_event" },
  { name := "job", api := "BatchV1Api", model := "V1Job",
    clusterListing := "list_job_for_all_namespaces",
    namespacedListing := some "list_namespaced_job" },
  { name := "namespace", api := "CoreV1Api", model := "V1Namespace",
    clusterListing := "list_namespace" },
  { name := "node", api := "CoreV1Api", model := "V1Node", clusterListing := "list_node" },
  { name := "pod", api := "CoreV1Api", model := "V1Pod",
    clusterListing := "list_pod_for_all_namespaces",
    namespacedListing := some "list_namespaced_pod" },
  { name := "secret", api := "CoreV1Api", model := "V1Secret",
    clusterListing := "list_secret_for_all_namespaces",
    namespacedListing := some "list_namespaced_secret" },
  { name := "service", api := "CoreV1Api", model := "V1Service",
    clusterListing := "list_service_for_all_namespaces",
    namespacedListing := some "list_namespaced_service" },
  { name := "statefulset", api := "AppsV1Api", model := "V1StatefulSet",
    clusterListing := "list_stateful_set_for_all_namespaces",
    namespacedListing := some "list_namespaced_stateful_set" }]

/-- The names of all kinds. -/
def names : List String := all.map (·.name)

/-- The kind of exactly that name. -/
def find? (name : String) : Option Kind := all.find? (·.name == name)

/-- Why no listing can be chosen. -/
inductive Error where
  | unsupported (kind : String)
  | clusterScoped (kind namespaceName : String)
  deriving DecidableEq

/-- What a message says about the failure. -/
def Error.message : Error → String
  | .unsupported kind =>
    "Unsupported kind: " ++ kind ++ ". Must be one of ["
      ++ ", ".intercalate (names.map quoted) ++ "]"
  | .clusterScoped kind namespaceName =>
    kind ++ " is cluster-scoped and cannot be watched in namespace " ++ quoted namespaceName

/-- An operation that lists a kind, bound to a namespace or for the whole cluster. -/
structure Listing where
  operation : String
  namespaceName : Option String
  deriving DecidableEq

/-- The listing for a kind, given by its name in any case, in a namespace or everywhere. -/
def listing (kind namespaceName : String) : Except Error Listing :=
  match find? (lower kind) with
  | none => .error (.unsupported kind)
  | some spec =>
    if namespaceName.isEmpty then .ok ⟨spec.clusterListing, none⟩
    else
      match spec.namespacedListing with
      | none => .error (.clusterScoped kind namespaceName)
      | some operation => .ok ⟨operation, some namespaceName⟩

end Kind

end ResumableWatch
