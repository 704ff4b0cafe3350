import SeedNode.CommandLine.Arguments
import SeedNode.Service

/-!
# Replies of the command line

What the daemon prints before it starts: help, its version, or a complaint with a reminder of its
usage. Otherwise it starts, with the backend that was asked for or that suits the terminal.
-/

namespace SeedNode.CommandLine

def usage : String :=
  "usage: dht-bootstrapd [-h] --config FILE_PATH [--log-backend BACKEND]\n"
    ++ "                      [--version]\n"

def helpText : String :=
  usage ++ "\n"
    ++ "DHT bootstrap node daemon\n\n"
    ++ "options:\n"
    ++ "  -h, --help            show this help message and exit\n"
    ++ "  --config FILE_PATH    Path to the config file. Point it at an empty file to\n"
    ++ "                        use default settings.\n"
    ++ "  --log-backend BACKEND\n"
    ++ "                        Logging backend: 'syslog' or 'stdout' (default: stdout\n"
    ++ "                        on a terminal, else syslog)\n"
    ++ "  --version             show program's version number and exit\n\n"
    ++ "Examples:\n"
    ++ "  # Start with the settings in /etc/dht-bootstrapd.conf, logging to syslog\n"
    ++ "  dht-bootstrapd --config=/etc/dht-bootstrapd.conf\n\n"
    ++ "  # Use default settings and log to the terminal\n"
    ++ "  touch empty.conf && dht-bootstrapd --config=empty.conf --log-backend=stdout\n\n"
    ++ "Environment Variables:\n"
    ++ "  BOOTSTRAPD_LOG_LEVEL        Log level (default: INFO)\n"
    ++ "  BOOTSTRAPD_LOG_FORMAT       'json' or 'text'\n"
    ++ "  BOOTSTRAPD_NETWORK_ENGINE   Engine plugin name or module:attribute\n"
    ++ "        \n"

def packageVersion : String := "0.3.0"

def developmentVersion : String := "0.0.0-dev"

def versionLine (installed : Bool) : String :=
  let version := if installed then packageVersion else developmentVersion
  s!"{Service.daemonName} {version} (version number {Service.versionNumber})\n"

/-- What the daemon does once its arguments are read. -/
inductive Reply where
  | exit (status : Nat) (stdout stderr : String)
  /-- It starts with the settings file at a path, if one was given. -/
  | start (config : Option String) (backend : Backend)
  deriving Repr, DecidableEq

def reply (arguments : List String) (outlets : Outlets) (installed : Bool) : Reply :=
  match read arguments with
  | .help => .exit 0 helpText ""
  | .version => .exit 0 (versionLine installed) ""
  | .refused message => .exit 2 "" s!"{usage}{Service.daemonName}: error: {message}\n"
  | .start config backend => .start config (backend.getD outlets.backend)

end SeedNode.CommandLine
