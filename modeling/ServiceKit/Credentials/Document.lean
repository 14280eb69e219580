import ServiceKit.Credentials.Config
import ServiceKit.Json.Basic

namespace ServiceKit

open Json in
/-- The configuration as an object, with its secrets. -/
def CredentialsConfig.document (c : CredentialsConfig) : Json :=
  ofFields [("access_key", ofOption .str c.accessKey), ("secret_key", ofOption .str c.secretKey),
    ("session_token", ofOption .str c.sessionToken), ("region", ofOption .str c.region),
    ("profile", ofOption .str c.profile), ("filename", ofOption .str c.filename),
    ("role_arn", ofOption .str c.roleArn), ("role_session_name", ofOption .str c.roleSessionName),
    ("web_identity_token_file", ofOption .str c.webIdentityTokenFile),
    ("sts_endpoint", ofOption .str c.stsEndpoint), ("iam_endpoint", ofOption .str c.iamEndpoint),
    ("max_retries", ofNat c.maxRetries), ("allow_instance_metadata", .bool c.allowInstanceMetadata)]

end ServiceKit
