-- SUMMARY: The shape of the volumes of a pod.
import NetAttach.Cluster.Shape.Container

/-!
# Shapes of volumes

A volume has a name and a source. There is a member for every kind of source, and
nothing demands that only one of them is there.
-/

namespace NetAttach.Cluster.Shape

open NetAttach.Json

-- ---------------------------------------------------------------------------
-- Parts of sources
-- ---------------------------------------------------------------------------

/-- A source of texts, of which some are in fields of other shapes. -/
def source (texts : List String) (others : List (String × Shape)) : Shape :=
  .looseObject (Shape.each .text texts ++ others)

/-- A field that tells whether a volume is only read. -/
def readOnly : String × Shape := ("readOnly", .flag)

/-- An object in the same namespace, by its name. -/
def localReference : Shape := textObject ["name"]

def secretReference : String × Shape := ("secretRef", localReference)

/-- Which keys become which files. -/
def keyPaths : Shape := .list (.looseObject [("key", .text), ("mode", .int32), ("path", .text)])

/-- Which facts about a pod become which files. -/
def factPaths : Shape :=
  .list (.looseObject [("fieldRef", fieldSelector), ("mode", .int32), ("path", .text),
    ("resourceFieldRef", resourceSelector)])

/-- A configuration or a secret as a source of files. -/
def keyed (name : String) : List (String × Shape) :=
  [("items", keyPaths), (name, .text), ("optional", .flag)]

/-- What files are made of in a volume of several sources. -/
def projection : Shape :=
  .looseObject [
    ("clusterTrustBundle", source ["name", "path", "signerName"]
      [("labelSelector", labelSelector), ("optional", .flag)]),
    ("configMap", .looseObject (keyed "name")),
    ("downwardAPI", .looseObject [("items", factPaths)]),
    ("secret", .looseObject (keyed "name")),
    ("serviceAccountToken", source ["audience", "path"] [("expirationSeconds", .int64)])]

/-- A claim of storage. -/
def claim : Shape :=
  source ["storageClassName", "volumeAttributesClassName", "volumeMode", "volumeName"] [
    ("accessModes", .texts),
    ("dataSource", textObject ["apiGroup", "kind", "name"]),
    ("dataSourceRef", textObject ["apiGroup", "kind", "name", "namespace"]),
    ("resources", .looseObject [("limits", quantities), ("requests", quantities)]),
    ("selector", labelSelector)]

-- ---------------------------------------------------------------------------
-- Volumes
-- ---------------------------------------------------------------------------

/-- The sources in the cluster itself. -/
def innerSources : List (String × Shape) :=
  [("configMap", .looseObject (("defaultMode", .int32) :: keyed "name")),
    ("downwardAPI", .looseObject [("defaultMode", .int32), ("items", factPaths)]),
    ("emptyDir", source ["medium"] [("sizeLimit", quantity)]),
    ("ephemeral", .looseObject [("volumeClaimTemplate",
      .looseObject [("metadata", metadata), ("spec", claim)])]),
    ("gitRepo", textObject ["directory", "repository", "revision"]),
    ("hostPath", textObject ["path", "type"]),
    ("image", textObject ["pullPolicy", "reference"]),
    ("persistentVolumeClaim", source ["claimName"] [readOnly]),
    ("projected", .looseObject [("defaultMode", .int32), ("sources", .list projection)]),
    ("secret", .looseObject (("defaultMode", .int32) :: keyed "secretName"))]

/-- The sources on disks and servers outside. -/
def outerSources : List (String × Shape) :=
  [("awsElasticBlockStore", source ["fsType", "volumeID"] [("partition", .int32), readOnly]),
    ("azureDisk", source ["cachingMode", "diskName", "diskURI", "fsType", "kind"] [readOnly]),
    ("azureFile", source ["secretName", "shareName"] [readOnly]),
    ("cephfs", source ["path", "secretFile", "user"]
      [("monitors", .texts), readOnly, secretReference]),
    ("cinder", source ["fsType", "volumeID"] [readOnly, secretReference]),
    ("csi", source ["driver", "fsType"] [("nodePublishSecretRef", localReference), readOnly,
      ("volumeAttributes", .textDict)]),
    ("fc", source ["fsType"] [("lun", .int32), readOnly, ("targetWWNs", .texts), ("wwids", .texts)]),
    ("flexVolume", source ["driver", "fsType"]
      [("options", .textDict), readOnly, secretReference]),
    ("flocker", textObject ["datasetName", "datasetUUID"]),
    ("gcePersistentDisk", source ["fsType", "pdName"] [("partition", .int32), readOnly]),
    ("glusterfs", source ["endpoints", "path"] [readOnly]),
    ("iscsi", source ["fsType", "initiatorName", "iqn", "iscsiInterface", "targetPortal"]
      [("chapAuthDiscovery", .flag), ("chapAuthSession", .flag), ("lun", .int32),
        ("portals", .texts), readOnly, secretReference]),
    ("nfs", source ["path", "server"] [readOnly]),
    ("photonPersistentDisk", textObject ["fsType", "pdID"]),
    ("portworxVolume", source ["fsType", "volumeID"] [readOnly]),
    ("quobyte", source ["group", "registry", "tenant", "user", "volume"] [readOnly]),
    ("rbd", source ["fsType", "image", "keyring", "pool", "user"]
      [("monitors", .texts), readOnly, secretReference]),
    ("scaleIO", source ["fsType", "gateway", "protectionDomain", "storageMode", "storagePool",
      "system", "volumeName"] [readOnly, secretReference, ("sslEnabled", .flag)]),
    ("storageos", source ["fsType", "volumeName", "volumeNamespace"] [readOnly, secretReference]),
    ("vsphereVolume", textObject ["fsType", "storagePolicyID", "storagePolicyName", "volumePath"])]

/-- A volume. -/
def volume : Shape := .looseObject (("name", .text) :: innerSources ++ outerSources)

end NetAttach.Cluster.Shape
