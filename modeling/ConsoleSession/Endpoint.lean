import ConsoleSession.Text.Blank
import ConsoleSession.Text.Percent

/-!
URLs built on the backend's base. One slash joins base and path however many either brings.
-/

namespace ConsoleSession

def endpoint (base path : String) : String :=
  Text.stripEnd '/' base ++ "/" ++ Text.stripStart '/' path

namespace Endpoint

def refresh (base : String) : String := endpoint base "/api/auth/refresh"

def logout (base : String) : String := endpoint base "/api/auth/logout"

def login (base provider : String) : String :=
  endpoint base ("/api/auth/" ++ Percent.component provider ++ "/login")

def resource (base path : String) : String :=
  endpoint base ("/api/" ++ Text.stripStart '/' path)

end Endpoint

end ConsoleSession
