import SchedulerOperator.Meta.Shape

namespace SchedulerOperator.Shape

def texts : Shape := .list .text
def textMap : Shape := .map .text

def resourceRequirements : Shape := .record "ResourceRequirements"
  [("claims", .list (.record "ResourceClaim" [("name", .text), ("request", .text)])),
   ("limits", textMap), ("requests", textMap)]

def labelSelector : Shape := .record "LabelSelector"
  [("matchExpressions", .list (.record "LabelSelectorRequirement"
     [("key", .text), ("operator", .text), ("values", texts)])),
   ("matchLabels", textMap)]

def localObjectReference : Shape := .record "LocalObjectReference" [("name", .text)]

def objectFieldSelector : Shape := .record "ObjectFieldSelector"
  [("apiVersion", .text), ("fieldPath", .text)]

def resourceFieldSelector : Shape := .record "ResourceFieldSelector"
  [("containerName", .text), ("divisor", .text), ("resource", .text)]

def keySelector (name : String) : Shape := .record name
  [("key", .text), ("name", .text), ("optional", .boolean)]

def environmentVariable : Shape := .record "EnvVar"
  [("name", .text), ("value", .text),
   ("valueFrom", .record "EnvVarSource"
     [("configMapKeyRef", keySelector "ConfigMapKeySelector"),
      ("fieldRef", objectFieldSelector),
      ("resourceFieldRef", resourceFieldSelector),
      ("secretKeyRef", keySelector "SecretKeySelector")])]

def environmentSource (name : String) : Shape := .record name
  [("name", .text), ("optional", .boolean)]

def httpGet : Shape := .record "HTTPGetAction"
  [("host", .text),
   ("httpHeaders", .list (.record "HTTPHeader" [("name", .text), ("value", .text)])),
   ("path", .text), ("port", .intOrText), ("scheme", .text)]

def tcpSocket : Shape := .record "TCPSocketAction" [("host", .text), ("port", .intOrText)]

def execAction : Shape := .record "ExecAction" [("command", texts)]

def probe : Shape := .record "Probe"
  [("exec", execAction), ("failureThreshold", .int32),
   ("grpc", .record "GRPCAction" [("port", .int32), ("service", .text)]),
   ("httpGet", httpGet), ("initialDelaySeconds", .int32), ("periodSeconds", .int32),
   ("successThreshold", .int32), ("tcpSocket", tcpSocket),
   ("terminationGracePeriodSeconds", .int64), ("timeoutSeconds", .int32)]

def lifecycleHandler : Shape := .record "LifecycleHandler"
  [("exec", execAction), ("httpGet", httpGet),
   ("sleep", .record "SleepAction" [("seconds", .int64)]), ("tcpSocket", tcpSocket)]

def lifecycle : Shape := .record "Lifecycle"
  [("postStart", lifecycleHandler), ("preStop", lifecycleHandler), ("stopSignal", .text)]

def seLinuxOptions : Shape := .record "SELinuxOptions"
  [("level", .text), ("role", .text), ("type", .text), ("user", .text)]

def seccompProfile : Shape := .record "SeccompProfile"
  [("localhostProfile", .text), ("type", .text)]

def appArmorProfile : Shape := .record "AppArmorProfile"
  [("localhostProfile", .text), ("type", .text)]

def windowsOptions : Shape := .record "WindowsSecurityContextOptions"
  [("gmsaCredentialSpec", .text), ("gmsaCredentialSpecName", .text), ("hostProcess", .boolean),
   ("runAsUserName", .text)]

def securityContext : Shape := .record "SecurityContext"
  [("allowPrivilegeEscalation", .boolean), ("appArmorProfile", appArmorProfile),
   ("capabilities", .record "Capabilities" [("add", texts), ("drop", texts)]),
   ("privileged", .boolean), ("procMount", .text), ("readOnlyRootFilesystem", .boolean),
   ("runAsGroup", .int64), ("runAsNonRoot", .boolean), ("runAsUser", .int64),
   ("seLinuxOptions", seLinuxOptions), ("seccompProfile", seccompProfile),
   ("windowsOptions", windowsOptions)]

def containerFields : List (String × Shape) :=
  [("args", texts), ("command", texts), ("env", .list environmentVariable),
   ("envFrom", .list (.record "EnvFromSource"
     [("configMapRef", environmentSource "ConfigMapEnvSource"), ("prefix", .text),
      ("secretRef", environmentSource "SecretEnvSource")])),
   ("image", .text), ("imagePullPolicy", .text), ("lifecycle", lifecycle),
   ("livenessProbe", probe), ("name", .text),
   ("ports", .list (.record "ContainerPort"
     [("containerPort", .int32), ("hostIP", .text), ("hostPort", .int32), ("name", .text),
      ("protocol", .text)])),
   ("readinessProbe", probe),
   ("resizePolicy", .list (.record "ContainerResizePolicy"
     [("resourceName", .text), ("restartPolicy", .text)])),
   ("resources", resourceRequirements), ("restartPolicy", .text),
   ("securityContext", securityContext), ("startupProbe", probe), ("stdin", .boolean),
   ("stdinOnce", .boolean), ("terminationMessagePath", .text),
   ("terminationMessagePolicy", .text), ("tty", .boolean),
   ("volumeDevices", .list (.record "VolumeDevice" [("devicePath", .text), ("name", .text)])),
   ("volumeMounts", .list (.record "VolumeMount"
     [("mountPath", .text), ("mountPropagation", .text), ("name", .text), ("readOnly", .boolean),
      ("recursiveReadOnly", .text), ("subPath", .text), ("subPathExpr", .text)])),
   ("workingDir", .text)]

def container : Shape := .record "Container" containerFields

def ephemeralContainer : Shape :=
  .record "EphemeralContainer" (("targetContainerName", .text) :: containerFields)

def nodeSelectorTerm : Shape :=
  let requirements : Shape := .list (.record "NodeSelectorRequirement"
    [("key", .text), ("operator", .text), ("values", texts)])
  .record "NodeSelectorTerm" [("matchExpressions", requirements), ("matchFields", requirements)]

def podAffinityTerm : Shape := .record "PodAffinityTerm"
  [("labelSelector", labelSelector), ("matchLabelKeys", texts), ("mismatchLabelKeys", texts),
   ("namespaceSelector", labelSelector), ("namespaces", texts), ("topologyKey", .text)]

def podAffinity (name : String) : Shape := .record name
  [("preferredDuringSchedulingIgnoredDuringExecution", .list (.record "WeightedPodAffinityTerm"
     [("podAffinityTerm", podAffinityTerm), ("weight", .int32)])),
   ("requiredDuringSchedulingIgnoredDuringExecution", .list podAffinityTerm)]

def affinity : Shape := .record "Affinity"
  [("nodeAffinity", .record "NodeAffinity"
     [("preferredDuringSchedulingIgnoredDuringExecution", .list (.record "PreferredSchedulingTerm"
        [("preference", nodeSelectorTerm), ("weight", .int32)])),
      ("requiredDuringSchedulingIgnoredDuringExecution", .record "NodeSelector"
        [("nodeSelectorTerms", .list nodeSelectorTerm)])]),
   ("podAffinity", podAffinity "PodAffinity"),
   ("podAntiAffinity", podAffinity "PodAntiAffinity")]

def keyToPaths : Shape := .list (.record "KeyToPath"
  [("key", .text), ("mode", .int32), ("path", .text)])

def downwardFiles : Shape := .list (.record "DownwardAPIVolumeFile"
  [("fieldRef", objectFieldSelector), ("mode", .int32), ("path", .text),
   ("resourceFieldRef", resourceFieldSelector)])

def projection : Shape := .record "VolumeProjection"
  [("clusterTrustBundle", .record "ClusterTrustBundleProjection"
     [("labelSelector", labelSelector), ("name", .text), ("optional", .boolean), ("path", .text),
      ("signerName", .text)]),
   ("configMap", .record "ConfigMapProjection"
     [("items", keyToPaths), ("name", .text), ("optional", .boolean)]),
   ("downwardAPI", .record "DownwardAPIProjection" [("items", downwardFiles)]),
   ("secret", .record "SecretProjection"
     [("items", keyToPaths), ("name", .text), ("optional", .boolean)]),
   ("serviceAccountToken", .record "ServiceAccountTokenProjection"
     [("audience", .text), ("expirationSeconds", .int64), ("path", .text)])]

def claimTemplate : Shape := .record "PersistentVolumeClaimTemplate"
  [("metadata", .metadata),
   ("spec", .record "PersistentVolumeClaimSpec"
     [("accessModes", texts),
      ("dataSource", .record "TypedLocalObjectReference"
        [("apiGroup", .text), ("kind", .text), ("name", .text)]),
      ("dataSourceRef", .record "TypedObjectReference"
        [("apiGroup", .text), ("kind", .text), ("name", .text), ("namespace", .text)]),
      ("resources", .record "VolumeResourceRequirements"
        [("limits", textMap), ("requests", textMap)]),
      ("selector", labelSelector), ("storageClassName", .text),
      ("volumeAttributesClassName", .text), ("volumeMode", .text), ("volumeName", .text)])]

def volume : Shape := .record "Volume"
  [("awsElasticBlockStore", .record "AWSElasticBlockStoreVolumeSource"
     [("fsType", .text), ("partition", .int32), ("readOnly", .boolean), ("volumeID", .text)]),
   ("azureDisk", .record "AzureDiskVolumeSource"
     [("cachingMode", .text), ("diskName", .text), ("diskURI", .text), ("fsType", .text),
      ("kind", .text), ("readOnly", .boolean)]),
   ("azureFile", .record "AzureFileVolumeSource"
     [("readOnly", .boolean), ("secretName", .text), ("shareName", .text)]),
   ("cephfs", .record "CephFSVolumeSource"
     [("monitors", texts), ("path", .text), ("readOnly", .boolean), ("secretFile", .text),
      ("secretRef", localObjectReference), ("user", .text)]),
   ("cinder", .record "CinderVolumeSource"
     [("fsType", .text), ("readOnly", .boolean), ("secretRef", localObjectReference),
      ("volumeID", .text)]),
   ("configMap", .record "ConfigMapVolumeSource"
     [("defaultMode", .int32), ("items", keyToPaths), ("name", .text), ("optional", .boolean)]),
   ("csi", .record "CSIVolumeSource"
     [("driver", .text), ("fsType", .text), ("nodePublishSecretRef", localObjectReference),
      ("readOnly", .boolean), ("volumeAttributes", textMap)]),
   ("downwardAPI", .record "DownwardAPIVolumeSource"
     [("defaultMode", .int32), ("items", downwardFiles)]),
   ("emptyDir", .record "EmptyDirVolumeSource" [("medium", .text), ("sizeLimit", .text)]),
   ("ephemeral", .record "EphemeralVolumeSource" [("volumeClaimTemplate", claimTemplate)]),
   ("fc", .record "FCVolumeSource"
     [("fsType", .text), ("lun", .int32), ("readOnly", .boolean), ("targetWWNs", texts),
      ("wwids", texts)]),
   ("flexVolume", .record "FlexVolumeSource"
     [("driver", .text), ("fsType", .text), ("options", textMap), ("readOnly", .boolean),
      ("secretRef", localObjectReference)]),
   ("flocker", .record "FlockerVolumeSource" [("datasetName", .text), ("datasetUUID", .text)]),
   ("gcePersistentDisk", .record "GCEPersistentDiskVolumeSource"
     [("fsType", .text), ("partition", .int32), ("pdName", .text), ("readOnly", .boolean)]),
   ("gitRepo", .record "GitRepoVolumeSource"
     [("directory", .text), ("repository", .text), ("revision", .text)]),
   ("glusterfs", .record "GlusterfsVolumeSource"
     [("endpoints", .text), ("path", .text), ("readOnly", .boolean)]),
   ("hostPath", .record "HostPathVolumeSource" [("path", .text), ("type", .text)]),
   ("image", .record "ImageVolumeSource" [("pullPolicy", .text), ("reference", .text)]),
   ("iscsi", .record "ISCSIVolumeSource"
     [("chapAuthDiscovery", .boolean), ("chapAuthSession", .boolean), ("fsType", .text),
      ("initiatorName", .text), ("iqn", .text), ("iscsiInterface", .text), ("lun", .int32),
      ("portals", texts), ("readOnly", .boolean), ("secretRef", localObjectReference),
      ("targetPortal", .text)]),
   ("name", .text),
   ("nfs", .record "NFSVolumeSource" [("path", .text), ("readOnly", .boolean), ("server", .text)]),
   ("persistentVolumeClaim", .record "PersistentVolumeClaimVolumeSource"
     [("claimName", .text), ("readOnly", .boolean)]),
   ("photonPersistentDisk", .record "PhotonPersistentDiskVolumeSource"
     [("fsType", .text), ("pdID", .text)]),
   ("portworxVolume", .record "PortworxVolumeSource"
     [("fsType", .text), ("readOnly", .boolean), ("volumeID", .text)]),
   ("projected", .record "ProjectedVolumeSource"
     [("defaultMode", .int32), ("sources", .list projection)]),
   ("quobyte", .record "QuobyteVolumeSource"
     [("group", .text), ("readOnly", .boolean), ("registry", .text), ("tenant", .text),
      ("user", .text), ("volume", .text)]),
   ("rbd", .record "RBDVolumeSource"
     [("fsType", .text), ("image", .text), ("keyring", .text), ("monitors", texts),
      ("pool", .text), ("readOnly", .boolean), ("secretRef", localObjectReference),
      ("user", .text)]),
   ("scaleIO", .record "ScaleIOVolumeSource"
     [("fsType", .text), ("gateway", .text), ("protectionDomain", .text), ("readOnly", .boolean),
      ("secretRef", localObjectReference), ("sslEnabled", .boolean), ("storageMode", .text),
      ("storagePool", .text), ("system", .text), ("volumeName", .text)]),
   ("secret", .record "SecretVolumeSource"
     [("defaultMode", .int32), ("items", keyToPaths), ("optional", .boolean),
      ("secretName", .text)]),
   ("storageos", .record "StorageOSVolumeSource"
     [("fsType", .text), ("readOnly", .boolean), ("secretRef", localObjectReference),
      ("volumeName", .text), ("volumeNamespace", .text)]),
   ("vsphereVolume", .record "VsphereVirtualDiskVolumeSource"
     [("fsType", .text), ("storagePolicyID", .text), ("storagePolicyName", .text),
      ("volumePath", .text)])]

def podSecurityContext : Shape := .record "PodSecurityContext"
  [("appArmorProfile", appArmorProfile), ("fsGroup", .int64), ("fsGroupChangePolicy", .text),
   ("runAsGroup", .int64), ("runAsNonRoot", .boolean), ("runAsUser", .int64),
   ("seLinuxChangePolicy", .text), ("seLinuxOptions", seLinuxOptions),
   ("seccompProfile", seccompProfile), ("supplementalGroups", .list .int64),
   ("supplementalGroupsPolicy", .text),
   ("sysctls", .list (.record "Sysctl" [("name", .text), ("value", .text)])),
   ("windowsOptions", windowsOptions)]

def topologySpread : Shape := .record "TopologySpreadConstraint"
  [("labelSelector", labelSelector), ("matchLabelKeys", texts), ("maxSkew", .int32),
   ("minDomains", .int32), ("nodeAffinityPolicy", .text), ("nodeTaintsPolicy", .text),
   ("topologyKey", .text), ("whenUnsatisfiable", .text)]

def podSpec : Shape := .record "PodSpec"
  [("activeDeadlineSeconds", .int64), ("affinity", affinity),
   ("automountServiceAccountToken", .boolean), ("containers", .list container),
   ("dnsConfig", .record "PodDNSConfig"
     [("nameservers", texts),
      ("options", .list (.record "PodDNSConfigOption" [("name", .text), ("value", .text)])),
      ("searches", texts)]),
   ("dnsPolicy", .text), ("enableServiceLinks", .boolean),
   ("ephemeralContainers", .list ephemeralContainer),
   ("hostAliases", .list (.record "HostAlias" [("hostnames", texts), ("ip", .text)])),
   ("hostIPC", .boolean), ("hostNetwork", .boolean), ("hostPID", .boolean),
   ("hostUsers", .boolean), ("hostname", .text),
   ("imagePullSecrets", .list localObjectReference), ("initContainers", .list container),
   ("nodeName", .text), ("nodeSelector", textMap),
   ("os", .record "PodOS" [("name", .text)]), ("overhead", textMap),
   ("preemptionPolicy", .text), ("priority", .int32), ("priorityClassName", .text),
   ("readinessGates", .list (.record "PodReadinessGate" [("conditionType", .text)])),
   ("resourceClaims", .list (.record "PodResourceClaim"
     [("name", .text), ("resourceClaimName", .text), ("resourceClaimTemplateName", .text)])),
   ("resources", resourceRequirements), ("restartPolicy", .text), ("runtimeClassName", .text),
   ("schedulerName", .text),
   ("schedulingGates", .list (.record "PodSchedulingGate" [("name", .text)])),
   ("securityContext", podSecurityContext), ("serviceAccount", .text),
   ("serviceAccountName", .text), ("setHostnameAsFQDN", .boolean),
   ("shareProcessNamespace", .boolean), ("subdomain", .text),
   ("terminationGracePeriodSeconds", .int64),
   ("tolerations", .list (.record "Toleration"
     [("effect", .text), ("key", .text), ("operator", .text), ("tolerationSeconds", .int64),
      ("value", .text)])),
   ("topologySpreadConstraints", .list topologySpread), ("volumes", .list volume)]

def podTemplate : Shape := .record "PodTemplateSpec"
  [("metadata", .metadata), ("spec", podSpec)]

def deploymentSpec : Shape := .record "DeploymentSpec"
  [("minReadySeconds", .int32), ("paused", .boolean), ("progressDeadlineSeconds", .int32),
   ("replicas", .int32), ("revisionHistoryLimit", .int32), ("selector", labelSelector),
   ("strategy", .record "DeploymentStrategy"
     [("rollingUpdate", .record "RollingUpdateDeployment"
        [("maxSurge", .intOrText), ("maxUnavailable", .intOrText)]),
      ("type", .text)]),
   ("template", podTemplate)]

def deploymentStatus : Shape := .record "DeploymentStatus"
  [("availableReplicas", .int32), ("collisionCount", .int32),
   ("conditions", .list (.record "DeploymentCondition"
     [("lastTransitionTime", .time), ("lastUpdateTime", .time), ("message", .text),
      ("reason", .text), ("status", .text), ("type", .text)])),
   ("observedGeneration", .int64), ("readyReplicas", .int32), ("replicas", .int32),
   ("terminatingReplicas", .int32), ("unavailableReplicas", .int32),
   ("updatedReplicas", .int32)]

def deployment : Shape := .record "Deployment"
  [("apiVersion", .constant "apps/v1"), ("kind", .constant "Deployment"),
   ("metadata", .metadata), ("spec", deploymentSpec), ("status", deploymentStatus)]

end SchedulerOperator.Shape
