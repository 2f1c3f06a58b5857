import AdmissionRules.FieldPath
import AdmissionRules.Kubernetes.Api
import AdmissionRules.Kubernetes.ConfigMap
import AdmissionRules.Kubernetes.Version
import AdmissionRules.Registration.Served

set_option autoImplicit false

/-! # Discovery

The API server tells its groups, the versions of each group and the resources of each version.
Every version is asked for, and of each group the preferred version counts, or the most stable
one if none is preferred. -/

namespace AdmissionRules

open Json (Reader RecordField)

/-! ## Lists of the API server -/

/-- A version of a group: the name of the version, alone and with that of the group. -/
structure GroupVersionEntry where
  groupVersion : String
  version : String

structure ApiGroup where
  name : String
  preferred : Option String
  versions : List GroupVersionEntry

/-- A resource as a list tells it; group and version may differ from those of the list. -/
structure ListedResource where
  name : String
  kind : String
  group : Option String
  version : Option String
  namespaced : Bool

structure ResourceList where
  groupVersion : String
  resources : List ListedResource

/-! ## Reading lists -/

def GroupVersionEntry.reader : Reader GroupVersionEntry :=
  .looseRecord { groupVersion := "", version := "" } [
    .loose "groupVersion" .string fun x e => { e with groupVersion := x.getD "" },
    .loose "version" .string fun x e => { e with version := x.getD "" }]

/-- Addresses of the server, which play no part. -/
def serverAddresses : Reader Unit := fun depth s => do
  let _ ← Reader.list (.looseRecord () [
    .checked .optional "clientCIDR" (.nullable .string),
    .checked .optional "serverAddress" (.nullable .string)]) depth s
  .ok ()

namespace ApiGroup

def reader : Reader ApiGroup :=
  .looseRecord { name := "", preferred := none, versions := [] } (typeFields "v1" "APIGroup" ++ [
    .loose "name" .string fun x g => { g with name := x.getD "" },
    .loose "preferredVersion" GroupVersionEntry.reader
      fun x g => { g with preferred := x.map (·.version) },
    .checked .optional "serverAddressByClientCIDRs" (.nullable serverAddresses),
    .loose "versions" (.list GroupVersionEntry.reader)
      fun x g => { g with versions := x.getD [] }])

def listReader : Reader (List ApiGroup) :=
  .looseRecord [] (typeFields "v1" "APIGroupList" ++ [
    .loose "groups" (.list reader) fun x _ => x.getD []])

end ApiGroup

/-- The versions of the core group. -/
def coreVersions : Reader (List String) :=
  .looseRecord [] (typeFields "v1" "APIVersions" ++ [
    .checked .optional "serverAddressByClientCIDRs" (.nullable serverAddresses),
    .loose "versions" (.list .string) fun x _ => x.getD []])

def ListedResource.reader : Reader ListedResource :=
  .looseRecord { name := "", kind := "", group := none, version := none, namespaced := false } [
    .checked .optional "categories" (.nullable (.list .string)),
    .loose "group" .string fun x r => { r with group := x },
    .loose "kind" .string fun x r => { r with kind := x.getD "" },
    .loose "name" .string fun x r => { r with name := x.getD "" },
    .loose "namespaced" .bool fun x r => { r with namespaced := x.getD false },
    .checked .optional "shortNames" (.nullable (.list .string)),
    .checked .optional "singularName" (.nullable .string),
    .checked .optional "storageVersionHash" (.nullable .string),
    .checked .optional "verbs" (.nullable (.list .string)),
    .loose "version" .string fun x r => { r with version := x }]

def ResourceList.reader : Reader ResourceList :=
  .looseRecord { groupVersion := "", resources := [] } (typeFields "v1" "APIResourceList" ++ [
    .loose "groupVersion" .string fun x l => { l with groupVersion := x.getD "" },
    .loose "resources" (.list ListedResource.reader)
      fun x l => { l with resources := x.getD [] }])

/-! ## Resources of a version -/

/-- Group and version in an API version; without a slash the group is the core group. -/
def splitApiVersion (s : String) : String × String :=
  let cs := s.toList
  match cs.dropWhile (· ≠ '/') with
  | _ :: version => (String.ofList (cs.takeWhile (· ≠ '/')), String.ofList version)
  | [] => ("", s)

namespace ResourceList

/-- Whether a resource is namespaced; of resources with one name the first one tells. -/
def isNamespaced (l : ResourceList) (name : String) : Bool :=
  match l.resources.find? fun r => r.name = name with
  | some r => r.namespaced
  | none => false

/-- The resources of a list with their kinds; parts of resources are left out. -/
def served (l : ResourceList) : List (String × ServedResource) :=
  let (group, version) := splitApiVersion l.groupVersion
  (l.resources.filter fun r => !r.name.toList.contains '/').map fun r =>
    (r.kind, { group := r.group.getD group, version := r.version.getD version, plural := r.name,
               namespaced := l.isNamespaced r.name })

end ResourceList

/-- The resources of a group: those of the version that counts. -/
def resourcesOf (preferred : Option String) (versions : List (String × ResourceList)) :
    List (String × ServedResource) :=
  match preferred.or (VersionRank.best? (versions.map (·.1))) with
  | some version => ((versions.lookup version).map ResourceList.served).getD []
  | none => []

/-! ## Asking -/

/-- The resources of all versions of a group; a group without versions is a failure. -/
def askVersions (server : ApiServer) (versions : List (String × String)) :
    Exchange (List (String × ResourceList)) :=
  if versions.isEmpty then .done (.error .emptyGroup)
  else
    .forEach (fun (version, path) => do
      pure (version, ← server.get path ResourceList.reader)) versions

def askGroup (server : ApiServer) (g : ApiGroup) :
    Exchange (String × List (String × ServedResource)) := do
  let versions ← askVersions server (g.versions.map fun v => (v.version, "/apis/" ++ v.groupVersion))
  pure (g.name, resourcesOf g.preferred versions)

/-- The core group, of which the first version counts. -/
def askCore (server : ApiServer) : Exchange (List (String × ServedResource)) := do
  let names ← server.get "/api" coreVersions
  let versions ← askVersions server (names.map fun v => (v, "/api/" ++ v))
  pure (resourcesOf (some "v1") versions)

/-- All resources that the cluster serves, group after group in ascending order of their names. -/
def discover (server : ApiServer) : Exchange ServedResources := do
  let groups ← server.get "/apis" ApiGroup.listReader
  let found ← Exchange.forEach (askGroup server) groups
  let core ← askCore server
  pure (.ofList ((Ascending.ofList (found ++ [("", core)])).flatMap (·.2)))

end AdmissionRules
