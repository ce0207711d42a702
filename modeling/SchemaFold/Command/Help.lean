/-! The help texts of the command line. -/

namespace SchemaFold.Command

def programName : String :=
  "gql-tsgen"

def versionText : String :=
  "gql-tsgen, version 0.1.0\n"

def groupUsage : String :=
  "Usage: gql-tsgen [OPTIONS] COMMAND [ARGS]..."

def generateUsage : String :=
  "Usage: gql-tsgen generate [OPTIONS]"

def groupHelp : String :=
  "\n".intercalate
    [groupUsage,
      "",
      "  GraphQL to TypeScript type generator.",
      "",
      "  Generate TypeScript declarations from GraphQL schemas.",
      "",
      "Options:",
      "  --version  Show the version and exit.",
      "  --help     Show this message and exit.",
      "",
      "Commands:",
      "  generate  Generate TypeScript declarations from a GraphQL schema.",
      ""]

def generateHelp : String :=
  "\n".intercalate
    [generateUsage,
      "",
      "  Generate TypeScript declarations from a GraphQL schema.",
      "",
      "  Examples:",
      "",
      "      gql-tsgen generate --schema ./schema.graphql --output ./schema.d.ts",
      "",
      "      gql-tsgen generate -s ./schema -o ./src/types/ --scalar DateTime=string",
      "",
      "Options:",
      "  -s, --schema PATH         Path to GraphQL schema file or directory.",
      "                            [required]",
      "  -o, --output PATH         Output file for the declarations. An existing",
      "                            directory, or a path ending in a separator, receives",
      "                            schema.d.ts.  [required]",
      "  --scalar NAME=TYPE        TypeScript type for a custom scalar (repeatable).",
      "  --opaque NAME             Scalar typed by hand and left out of the output",
      "                            (repeatable, default: Date).",
      "  --root NAME               Operation root type to leave out (repeatable,",
      "                            default: Mutation, Query, Subscription).",
      "  --header TEXT             Header text written above the declarations.",
      "  --exclude-prefix TEXT     Skip definitions whose name starts with this prefix.",
      "  --template-dir DIRECTORY  Directory with templates overriding the built-in",
      "                            ones.",
      "  -v, --verbose             Enable verbose output.",
      "  --help                    Show this message and exit.",
      ""]

end SchemaFold.Command
