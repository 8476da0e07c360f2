/-! Platform identifiers. -/
namespace GatewayCache

/-- A 64-bit platform identifier; zero stands for "not known" where a payload leaves a parent out. -/
abbrev Snowflake := UInt64

end GatewayCache
