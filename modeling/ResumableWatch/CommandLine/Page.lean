import ResumableWatch.Configuration
/-!
# The pages of the command line

The command line has a group of two commands, and each of the three has a page: how it is used, what
it is for, and which options it takes.
-/

namespace ResumableWatch.CommandLine

/-- What an option of the command line is about. -/
inductive Topic where
  | help
  | version
  | kind
  | namespaceName
  | labelSelector
  | fieldSelector
  | timeout
  | logLevel
  | logFormat
  deriving DecidableEq

/-- The group and its commands. -/
inductive Page where
  | group
  | kinds
  | watch
  deriving DecidableEq

namespace Page

/-- The long names of the options of a page. -/
def longNames : Page → List (String × Topic)
  | group => [("--version", .version), ("--help", .help)]
  | kinds => [("--help", .help)]
  | watch => [
    ("--kind", .kind), ("--namespace", .namespaceName), ("--label-selector", .labelSelector),
    ("--field-selector", .fieldSelector), ("--timeout", .timeout), ("--log-level", .logLevel),
    ("--log-format", .logFormat), ("--help", .help)]

/-- The letters of the options of a page; each of them takes a value. -/
def letters : Page → List (Char × Topic)
  | group => []
  | kinds => []
  | watch => [('n', .namespaceName), ('l', .labelSelector)]

/-- How a page is called. -/
def path : Page → String
  | group => "cli"
  | kinds => "cli kinds"
  | watch => "cli watch"

/-- How a page is used. -/
def usage : Page → String
  | group => "Usage: cli [OPTIONS] COMMAND [ARGS]..."
  | kinds => "Usage: cli kinds [OPTIONS]"
  | watch => "Usage: cli watch [OPTIONS]"

/-- The lines of a page below its usage. -/
def lines : Page → List String
  | group => [
    "  Resumable Kubernetes watch client.",
    "",
    "Options:",
    "  --version  Show the version and exit.",
    "  --help     Show this message and exit.",
    "",
    "Commands:",
    "  kinds  List the resource kinds that can be watched.",
    "  watch  Watch a resource kind and log every change until interrupted."]
  | kinds => [
    "  List the resource kinds that can be watched.",
    "",
    "Options:",
    "  --help  Show this message and exit."]
  | watch => [
    "  Watch a resource kind and log every change until interrupted.",
    "",
    "  Options override the matching KUBEINFORMER_* environment variables.",
    "",
    "Options:",
    "  --kind [" ++ "|".intercalate Kind.names ++ "]",
    "                                  Resource kind to watch.",
    "  -n, --namespace TEXT            Namespace to watch. All namespaces when",
    "                                  omitted.",
    "  -l, --label-selector TEXT       Only watch objects matching this label",
    "                                  selector.",
    "  --field-selector TEXT           Only watch objects matching this field",
    "                                  selector.",
    "  --timeout INTEGER RANGE         Server-side watch timeout in seconds.",
    "                                  [1<=x<=3600]",
    "  --log-level [" ++ "|".intercalate Configuration.logLevels ++ "]",
    "                                  Log level.",
    "  --log-format [" ++ "|".intercalate Configuration.logFormats ++ "]     Log output format.",
    "  --help                          Show this message and exit."]

/-- The page as it is shown. -/
def help (page : Page) : String :=
  page.usage ++ "\n\n" ++ String.join (page.lines.map (· ++ "\n"))

/-- What is shown above a mistake. -/
def hint (page : Page) : String :=
  page.usage ++ "\nTry '" ++ page.path ++ " --help' for help.\n\n"

end Page

end ResumableWatch.CommandLine
