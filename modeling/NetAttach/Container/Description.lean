-- SUMMARY: The shape of the description that the container daemon gives of a container.
import NetAttach.Json.Shape

/-!
# Descriptions of containers

The daemon describes a container with its state, its configuration, what it may use of
the host, its volumes and its networks. Records are strict, and nearly all fields may
be absent or `null`; an array for a record has to have all fields in the order in which
they stand here.
-/

namespace NetAttach.Container

open NetAttach.Json (Shape)

-- ---------------------------------------------------------------------------
-- Leaves
-- ---------------------------------------------------------------------------

/-- One of some words. The empty word stands for none of them. -/
def choice (words : List String) : Shape := .word ("" :: words)

/-- A record of texts. -/
def textRecord (names : List String) : Shape := .strictRecord (Shape.each .text names)

/-- A set, as an object of empty objects. -/
def keySet : Shape := .dict (.dict (.word []))

/-- What containers call a port, and what it is bound to on the host. -/
def portMap : Shape := .dict (.optional (.list (textRecord ["HostIp", "HostPort"])))

-- ---------------------------------------------------------------------------
-- The state
-- ---------------------------------------------------------------------------

/-- The health of a container. -/
def health : Shape :=
  .strictRecord [
    ("Status", choice ["none", "starting", "healthy", "unhealthy"]),
    ("FailingStreak", .int64),
    ("Log", .list (.strictRecord [("Start", .text), ("End", .text), ("ExitCode", .int64),
      ("Output", .text)]))]

/-- The fields of the state of a container. -/
def stateFields : List (String × Shape) :=
  [("Status",
      choice ["created", "running", "paused", "restarting", "removing", "exited", "dead"])]
    ++ Shape.each .flag ["Running", "Paused", "Restarting", "OOMKilled", "Dead"]
    ++ Shape.each .int64 ["Pid", "ExitCode"]
    ++ Shape.each .text ["Error", "StartedAt", "FinishedAt"]
    ++ [("Health", health)]

-- ---------------------------------------------------------------------------
-- The host
-- ---------------------------------------------------------------------------

/-- A limit on the traffic with a device. -/
def throttles : Shape := .list (.strictRecord [("Path", .text), ("Rate", .int64)])

/-- What a container may use of the host. -/
def resourceFields : List (String × Shape) :=
  Shape.each .int64 ["CpuShares", "Memory"]
    ++ [("CgroupParent", .text), ("BlkioWeight", .int 0 65535),
      ("BlkioWeightDevice",
        .list (.strictRecord [("Path", .text), ("Weight", .int 0 0xFFFFFFFFFFFFFFFF)]))]
    ++ Shape.each throttles ["BlkioDeviceReadBps", "BlkioDeviceWriteBps", "BlkioDeviceReadIOps",
      "BlkioDeviceWriteIOps"]
    ++ Shape.each .int64 ["CpuPeriod", "CpuQuota", "CpuRealtimePeriod", "CpuRealtimeRuntime"]
    ++ Shape.each .text ["CpusetCpus", "CpusetMems"]
    ++ [("Devices", .list (textRecord ["PathOnHost", "PathInContainer", "CgroupPermissions"])),
      ("DeviceCgroupRules", .texts),
      ("DeviceRequests", .list (.strictRecord [("Driver", .text), ("Count", .int64),
        ("DeviceIDs", .texts), ("Capabilities", .list .texts), ("Options", .textDict)]))]
    ++ Shape.each .int64 ["KernelMemoryTCP", "MemoryReservation", "MemorySwap", "MemorySwappiness",
      "NanoCpus"]
    ++ Shape.each .flag ["OomKillDisable", "Init"]
    ++ [("PidsLimit", .int64),
      ("Ulimits", .list (.strictRecord [("Name", .text), ("Soft", .int64), ("Hard", .int64)]))]
    ++ Shape.each .int64 ["CpuCount", "CpuPercent", "IOMaximumIOps", "IOMaximumBandwidth"]

/-- A volume that a container asks for. -/
def wantedMount : Shape :=
  .strictRecord [
    ("Target", .text), ("Source", .text),
    ("Type", choice ["bind", "volume", "tmpfs", "npipe", "cluster"]),
    ("ReadOnly", .flag), ("Consistency", .text),
    ("BindOptions", .strictRecord (
      ("Propagation", choice ["private", "rprivate", "shared", "rshared", "slave", "rslave"])
        :: Shape.each .flag ["NonRecursive", "CreateMountpoint", "ReadOnlyNonRecursive",
          "ReadOnlyForceRecursive"])),
    ("VolumeOptions", .strictRecord [("NoCopy", .flag), ("Labels", .textDict),
      ("DriverConfig", .strictRecord [("Name", .text), ("Options", .textDict)]),
      ("Subpath", .text)]),
    ("TmpfsOptions", .strictRecord [("SizeBytes", .int64), ("Mode", .int64)])]

/-- What ties a container to the host. -/
def host : Shape :=
  .strictRecord (resourceFields
    ++ [("Binds", .texts), ("ContainerIDFile", .text),
      ("LogConfig", .strictRecord [("Type", .text), ("Config", .textDict)]),
      ("NetworkMode", .text), ("PortBindings", portMap),
      ("RestartPolicy", .strictRecord [
        ("Name", choice ["no", "always", "unless-stopped", "on-failure"]),
        ("MaximumRetryCount", .int64)]),
      ("AutoRemove", .flag), ("VolumeDriver", .text), ("VolumesFrom", .texts),
      ("Mounts", .list wantedMount), ("ConsoleSize", .list .int32), ("Annotations", .textDict)]
    ++ Shape.each .texts ["CapAdd", "CapDrop"]
    ++ [("CgroupnsMode", choice ["private", "host"])]
    ++ Shape.each .texts ["Dns", "DnsOptions", "DnsSearch", "ExtraHosts", "GroupAdd"]
    ++ [("IpcMode", .text), ("Cgroup", .text), ("Links", .texts), ("OomScoreAdj", .int64),
      ("PidMode", .text)]
    ++ Shape.each .flag ["Privileged", "PublishAllPorts", "ReadonlyRootfs"]
    ++ [("SecurityOpt", .texts), ("StorageOpt", .textDict), ("Tmpfs", .textDict),
      ("UTSMode", .text), ("UsernsMode", .text), ("ShmSize", .int64), ("Sysctls", .textDict),
      ("Runtime", .text), ("Isolation", choice ["default", "process", "hyperv"])]
    ++ Shape.each .texts ["MaskedPaths", "ReadonlyPaths"])

-- ---------------------------------------------------------------------------
-- Volumes, the configuration, and networks
-- ---------------------------------------------------------------------------

/-- What keeps the files of a container. It has to tell its name and its data, which may be `null`. -/
def graphDriver : Shape :=
  .record ["Name", "Data"] [("Name", .text), ("Data", .optional .textDict)]

/-- A volume of a container. -/
def mountPoint : Shape :=
  .strictRecord (("Type", choice ["bind", "volume", "tmpfs", "npipe", "cluster"])
    :: Shape.each .text ["Name", "Source", "Destination", "Driver", "Mode"]
    ++ [("RW", .flag), ("Propagation", .text)])

/-- How a container was configured. -/
def configuration : Shape :=
  .strictRecord (Shape.each .text ["Hostname", "Domainname", "User"]
    ++ Shape.each .flag ["AttachStdin", "AttachStdout", "AttachStderr"]
    ++ [("ExposedPorts", keySet)]
    ++ Shape.each .flag ["Tty", "OpenStdin", "StdinOnce"]
    ++ Shape.each .texts ["Env", "Cmd"]
    ++ [("Healthcheck", .strictRecord (("Test", .texts)
        :: Shape.each .int64 ["Interval", "Timeout", "Retries", "StartPeriod", "StartInterval"])),
      ("ArgsEscaped", .flag), ("Image", .text), ("Volumes", keySet), ("WorkingDir", .text),
      ("Entrypoint", .texts), ("NetworkDisabled", .flag), ("MacAddress", .text),
      ("OnBuild", .texts), ("Labels", .textDict), ("StopSignal", .text), ("StopTimeout", .int64),
      ("Shell", .texts)])

/-- The place of a container in a network. -/
def endpoint : Shape :=
  .strictRecord (
    [("IPAMConfig", .strictRecord [("IPv4Address", .text), ("IPv6Address", .text),
        ("LinkLocalIPs", .texts)]),
      ("Links", .texts), ("MacAddress", .text), ("Aliases", .texts)]
    ++ Shape.each .text ["NetworkID", "EndpointID", "Gateway", "IPAddress"]
    ++ [("IPPrefixLen", .int64), ("IPv6Gateway", .text), ("GlobalIPv6Address", .text),
      ("GlobalIPv6PrefixLen", .int64), ("DriverOpts", .textDict), ("DNSNames", .texts)])

/-- The networks of a container. -/
def networks : Shape :=
  let addresses : Shape := .list (.strictRecord [("Addr", .text), ("PrefixLen", .int64)])
  .strictRecord (
    [("Bridge", .text), ("SandboxID", .text), ("HairpinMode", .flag),
      ("LinkLocalIPv6Address", .text), ("LinkLocalIPv6PrefixLen", .int64), ("Ports", portMap),
      ("SandboxKey", .text)]
    ++ Shape.each addresses ["SecondaryIPAddresses", "SecondaryIPv6Addresses"]
    ++ Shape.each .text ["EndpointID", "Gateway", "GlobalIPv6Address"]
    ++ [("GlobalIPv6PrefixLen", .int64), ("IPAddress", .text), ("IPPrefixLen", .int64),
      ("IPv6Gateway", .text), ("MacAddress", .text), ("Networks", .dict endpoint)])

-- ---------------------------------------------------------------------------
-- The whole
-- ---------------------------------------------------------------------------

/-- The fields of the description of a container. -/
def descriptionFields : List (String × Shape) :=
  Shape.each .text ["Id", "Created", "Path"]
    ++ [("Args", .texts), ("State", .strictRecord stateFields)]
    ++ Shape.each .text ["Image", "ResolvConfPath", "HostnamePath", "HostsPath", "LogPath", "Name"]
    ++ [("RestartCount", .int64)]
    ++ Shape.each .text ["Driver", "Platform", "MountLabel", "ProcessLabel", "AppArmorProfile"]
    ++ [("ExecIDs", .texts), ("HostConfig", host), ("GraphDriver", graphDriver)]
    ++ Shape.each .int64 ["SizeRw", "SizeRootFs"]
    ++ [("Mounts", .list mountPoint), ("Config", configuration), ("NetworkSettings", networks)]

/-- The description of a container. -/
def description : Shape := .strictRecord descriptionFields

end NetAttach.Container
