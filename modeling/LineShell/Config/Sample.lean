/-!
# The sample configuration

A document to start from: all settings at their defaults, each with a remark.
-/

namespace LineShell.Config

/-- A line that sets off a heading. -/
def rule : String := "# ============================================================================="

/-- A heading. -/
def heading (title : String) : List String := [rule, s!"# {title}", rule]

/-- The lines of the sample. -/
def sampleLines : List String :=
  ["# Interactive CLI Configuration File",
    "config_version: \"1.0\"",
    "description: \"Interactive CLI Configuration\"",
    ""] ++
  heading "SHELL SETTINGS" ++
  ["shell:",
    "  prompt: \"> \"                    # Printed before each line is read (\"\" for none)",
    "  run_async: false                # Run the read loop on a background thread",
    "  startup_script: null            # File of commands run before the loop starts",
    "  echo_script_lines: false        # Print \"// <line>\" for each startup script line",
    "  builtins: true                  # Register exit, echo, help, setvar, printvar, exec",
    ""] ++
  heading "CONSOLE / LOGGING" ++
  ["console:",
    "  verbose: false                  # DEBUG logging",
    "  quiet: false                    # WARNING logging and above only",
    "  log_level: \"INFO\"               # DEBUG, INFO, WARNING, ERROR, CRITICAL",
    ""] ++
  heading "VARIABLES" ++
  ["# Preloaded shell variables, usable as [name] in any command parameter",
    "variables:",
    "  greeting: \"Hello\""]

/-- The sample. -/
def sampleText : String := String.join (sampleLines.map (· ++ "\n"))

end LineShell.Config
