import WorkloadForms.Schema.Meta

/-!
# Schemas of volumes

A volume has one of many sources. Forms know five of them, but a source of the wrong shape spoils
the volume whether or not a form knows it.
-/

namespace WorkloadForms.Schema

/-- A key and the path it is stored under. -/
def keyToPath : Schema := .object [("key", .text), ("mode", .int32), ("path", .text)]

/-- The keys of a configuration map. -/
def configMapVolume : Schema :=
  .object
    [("defaultMode", .int32), ("items", .list keyToPath), ("name", .text), ("optional", .flag)]

/-- The keys of a secret. -/
def secretVolume : Schema :=
  .object
    [("defaultMode", .int32), ("items", .list keyToPath), ("optional", .flag),
     ("secretName", .text)]

/-- Storage that lives as long as the pod. -/
def emptyDirVolume : Schema := .object [("medium", .text), ("sizeLimit", .quantity)]

/-- A directory of the node. -/
def hostPathVolume : Schema := .object [("path", .text), ("type", .text)]

/-- Storage that is claimed by name. -/
def claimVolume : Schema := .object [("claimName", .text), ("readOnly", .flag)]

/-- A file that describes the pod. -/
def downwardFile : Schema :=
  .object
    [("fieldRef", fieldSelector), ("mode", .int32), ("path", .text),
     ("resourceFieldRef", resourceSelector)]

/-- A source whose files are shown together with others. -/
def projection : Schema :=
  .object
    [("clusterTrustBundle", .object
       [("labelSelector", labelSelector), ("name", .text), ("optional", .flag), ("path", .text),
        ("signerName", .text)]),
     ("configMap", .object [("items", .list keyToPath), ("name", .text), ("optional", .flag)]),
     ("downwardAPI", .object [("items", .list downwardFile)]),
     ("secret", .object [("items", .list keyToPath), ("name", .text), ("optional", .flag)]),
     ("serviceAccountToken", .object
       [("audience", .text), ("expirationSeconds", .int64), ("path", .text)])]

/-- What a claim for storage asks for. -/
def claimSpec : Schema :=
  .object
    [("accessModes", texts),
     ("dataSource", .object [("apiGroup", .text), ("kind", .text), ("name", .text)]),
     ("dataSourceRef", .object
       [("apiGroup", .text), ("kind", .text), ("name", .text), ("namespace", .text)]),
     ("resources", .object
       [("limits", .dictionary .quantity), ("requests", .dictionary .quantity)]),
     ("selector", labelSelector), ("storageClassName", .text),
     ("volumeAttributesClassName", .text), ("volumeMode", .text), ("volumeName", .text)]

/-- The sources that forms do not know. -/
def otherSources : List (String × Schema) :=
  [("awsElasticBlockStore", .object
     [("fsType", .text), ("partition", .int32), ("readOnly", .flag), ("volumeID", .text)]),
   ("azureDisk", .object
     [("cachingMode", .text), ("diskName", .text), ("diskURI", .text), ("fsType", .text),
      ("kind", .text), ("readOnly", .flag)]),
   ("azureFile", .object [("readOnly", .flag), ("secretName", .text), ("shareName", .text)]),
   ("cephfs", .object
     [("monitors", texts), ("path", .text), ("readOnly", .flag), ("secretFile", .text),
      ("secretRef", localReference), ("user", .text)]),
   ("cinder", .object
     [("fsType", .text), ("readOnly", .flag), ("secretRef", localReference),
      ("volumeID", .text)]),
   ("csi", .object
     [("driver", .text), ("fsType", .text), ("nodePublishSecretRef", localReference),
      ("readOnly", .flag), ("volumeAttributes", labels)]),
   ("downwardAPI", .object [("defaultMode", .int32), ("items", .list downwardFile)]),
   ("ephemeral", .object
     [("volumeClaimTemplate", .object [("metadata", objectMeta), ("spec", claimSpec)])]),
   ("fc", .object
     [("fsType", .text), ("lun", .int32), ("readOnly", .flag), ("targetWWNs", texts),
      ("wwids", texts)]),
   ("flexVolume", .object
     [("driver", .text), ("fsType", .text), ("options", labels), ("readOnly", .flag),
      ("secretRef", localReference)]),
   ("flocker", .object [("datasetName", .text), ("datasetUUID", .text)]),
   ("gcePersistentDisk", .object
     [("fsType", .text), ("partition", .int32), ("pdName", .text), ("readOnly", .flag)]),
   ("gitRepo", .object [("directory", .text), ("repository", .text), ("revision", .text)]),
   ("glusterfs", .object [("endpoints", .text), ("path", .text), ("readOnly", .flag)]),
   ("iscsi", .object
     [("chapAuthDiscovery", .flag), ("chapAuthSession", .flag), ("fsType", .text),
      ("initiatorName", .text), ("iqn", .text), ("iscsiInterface", .text), ("lun", .int32),
      ("portals", texts), ("readOnly", .flag), ("secretRef", localReference),
      ("targetPortal", .text)]),
   ("nfs", .object [("path", .text), ("readOnly", .flag), ("server", .text)]),
   ("photonPersistentDisk", .object [("fsType", .text), ("pdID", .text)]),
   ("portworxVolume", .object [("fsType", .text), ("readOnly", .flag), ("volumeID", .text)]),
   ("projected", .object [("defaultMode", .int32), ("sources", .list projection)]),
   ("quobyte", .object
     [("group", .text), ("readOnly", .flag), ("registry", .text), ("tenant", .text),
      ("user", .text), ("volume", .text)]),
   ("rbd", .object
     [("fsType", .text), ("image", .text), ("keyring", .text), ("monitors", texts),
      ("pool", .text), ("readOnly", .flag), ("secretRef", localReference), ("user", .text)]),
   ("scaleIO", .object
     [("fsType", .text), ("gateway", .text), ("protectionDomain", .text), ("readOnly", .flag),
      ("secretRef", localReference), ("sslEnabled", .flag), ("storageMode", .text),
      ("storagePool", .text), ("system", .text), ("volumeName", .text)]),
   ("storageos", .object
     [("fsType", .text), ("readOnly", .flag), ("secretRef", localReference),
      ("volumeName", .text), ("volumeNamespace", .text)]),
   ("vsphereVolume", .object
     [("fsType", .text), ("storagePolicyID", .text), ("storagePolicyName", .text),
      ("volumePath", .text)])]

/-- A volume. -/
def volume : Schema :=
  .object
    ([("name", .text), ("configMap", configMapVolume), ("emptyDir", emptyDirVolume),
      ("hostPath", hostPathVolume), ("persistentVolumeClaim", claimVolume),
      ("secret", secretVolume)] ++ otherSources)

end WorkloadForms.Schema
