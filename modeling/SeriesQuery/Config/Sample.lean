import SeriesQuery.Text.Split

/-!
# The sample configuration

A configuration file with every setting, most of them at their defaults, and a word on each. It is
given out to start from, and it can be read back.
-/

namespace SeriesQuery.Settings

/-- The lines of the sample. -/
def sampleLines : List String :=
  ["# Chronicle Bridge Configuration",
    "#",
    "# Environment variables override these settings:",
    "# - BRIDGE_HOST",
    "# - BRIDGE_PORT",
    "# - BRIDGE_STORE_URL",
    "# - BRIDGE_STORE_DATABASE",
    "# - BRIDGE_STORE_USERNAME",
    "# - BRIDGE_STORE_PASSWORD",
    "# - BRIDGE_LOG_LEVEL",
    "# - BRIDGE_LOG_FORMAT",
    "",
    "[server]",
    "# Address the SimpleJSON endpoints listen on",
    "host = \"0.0.0.0\"",
    "port = 8082",
    "",
    "[store]",
    "# Backend: arango or memory",
    "backend = \"arango\"",
    "",
    "# ArangoDB endpoint and database",
    "url = \"http://localhost:8529\"",
    "database = \"_system\"",
    "",
    "# Basic auth credentials",
    "username = \"root\"",
    "# password = \"\"",
    "",
    "# Per-request timeout (ms) and cursor batch size",
    "request_timeout_ms = 10000",
    "batch_size = 1000",
    "",
    "# JSON fixtures loaded by the memory backend",
    "# fixtures = \"./fixtures.json\"",
    "",
    "[logging]",
    "# Log level: trace, debug, info, warn, error",
    "level = \"info\"",
    "",
    "# Log format: pretty (for development) or json (for production)",
    "format = \"pretty\"",
    "",
    "[datasource]",
    "# Target name templates, comma-separated. Placeholders: x1..z3,",
    "# aggregation",
    "target = \"\x7b\x7bx1\x7d\x7d.\x7b\x7baggregation\x7d\x7d\"",
    "",
    "# Collection each target reads from",
    "collection = \"\x7b\x7bx1\x7d\x7d\"",
    "",
    "# Aggregations to expand: a name, an alias (AVG, STDDEV, ...), a",
    "# comma-separated list, or * for all of them. NONE returns raw values.",
    "aggregation = \"AVG,MAX\"",
    "",
    "# Axis variables, comma-separated. Sub-variables of one axis are zipped,",
    "# the x, y and z axes are multiplied.",
    "x1_variable = \"requests\"",
    "# y1_variable = \"\"",
    "",
    "# Date and value sources: a document attribute or an AQL expression over doc",
    "dateField = \"time\"",
    "valueField = \"value\"",
    "# dateExpression = \"DATE_TIMESTAMP(doc.created)\"",
    "# valueExpression = \"doc.bytes / 1024\"",
    "",
    "# Optional filter, may use dashboard variables as \x7b\x7bgrafana.name\x7d\x7d",
    "# filterExpression = \"doc.host == '\x7b\x7bgrafana.host\x7d\x7d'\"",
    "",
    "# Display name template",
    "# alias = \"\x7b\x7bx1\x7d\x7d (\x7b\x7baggregation\x7d\x7d)\"",
    "",
    "# Dashboard variables that fan a query out, one series per value",
    "# multiValueTemplateVariables = \"host\"",
    "",
    "# Drop series without datapoints",
    "hideEmpty = false",
    "",
    "# Log every compiled query at info level",
    "logQuery = false",
    "",
    "# Search targets answered by a literal query",
    "[datasource.templateVariables]",
    "# hosts = \"FOR doc IN requests COLLECT host = doc.host RETURN host\"",
    "",
    "# Static bindings per target name",
    "[datasource.targetData]",
    "# \"requests.AVERAGE\" = \x7b alias = \"Average requests\" \x7d"]

/-- The text of the sample. -/
def sample : String := String.join (sampleLines.map fun line => line ++ "\n")

end SeriesQuery.Settings
