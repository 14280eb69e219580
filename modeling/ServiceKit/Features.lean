namespace ServiceKit.Features

/-- The optional parts of the library. -/
def enabled : List String :=
  ["aws", "plugins"]

def isEnabled (name : String) : Bool :=
  enabled.contains name

end ServiceKit.Features
