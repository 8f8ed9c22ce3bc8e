/-
# A configuration file to begin with

A file that names every setting with its default.

Key definitions: `Config.template`.
-/

namespace Soql.Config

def templateLines : List String := [
  "# sfquery Configuration",
  "#",
  "# Environment variables override these settings:",
  "# - SFQUERY_CLIENT_ID",
  "# - SFQUERY_LOGIN_URL",
  "# - SFQUERY_REDIRECT_URI",
  "# - SFQUERY_SCOPE",
  "# - SFQUERY_API_VERSION",
  "# - SFQUERY_DATA_DIR",
  "# - SFQUERY_REQUEST_TIMEOUT",
  "# - SFQUERY_LOG_LEVEL",
  "# - SFQUERY_LOG_FORMAT",
  "",
  "[salesforce]",
  "# Authorization server (use https://test.salesforce.com for sandboxes)",
  "login_url = \"https://login.salesforce.com\"",
  "",
  "# Connected app consumer key",
  "client_id = \"\"",
  "",
  "# Callback URL registered on the connected app",
  "redirect_uri = \"https://login.salesforce.com/services/oauth2/success\"",
  "",
  "# Requested OAuth scopes",
  "scope = \"api web refresh_token\"",
  "",
  "# REST API version",
  "api_version = \"v57.0\"",
  "",
  "# Instance used until an authorization response names one",
  "default_instance_url = \"https://na1.salesforce.com\"",
  "",
  "# Open a browser for the authorization page",
  "open_browser = true",
  "",
  "[storage]",
  "# Directory for the token state file",
  "data_dir = \"~/.local/share/sfquery\"",
  "",
  "[http]",
  "# Request timeout in seconds",
  "request_timeout_secs = 30",
  "",
  "# Re-authorize automatically when the token is missing or older than 2h",
  "auto_authorize = true",
  "",
  "[clipboard]",
  "# Command that reads the query from stdin (detected when unset)",
  "# command = \"xclip -selection clipboard\"",
  "",
  "[logging]",
  "# Log level: trace, debug, info, warn, error",
  "level = \"warn\"",
  "",
  "# Log format: pretty (for development) or json (for production)",
  "format = \"pretty\""]

/-- The file that names every setting. -/
def template : String := String.join (templateLines.map (· ++ "\n"))

end Soql.Config
