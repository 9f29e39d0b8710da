/-!
# The first settings file

The text that is written where no settings file stands yet. It spells out the
default settings.
-/

namespace SpeciesBrowser.Settings

def skeleton : String :=
"# dexpage settings
#
# Lines are `key = value`. Comments start with `#` or `//`.

# Species fetched per page. A full page enables the Next control.
page_size = 50

# Language ids shown per row (1 = Japanese, 9 = English in PokeAPI).
primary_language_id = 1
secondary_language_id = 9

# GraphQL endpoint queried for species pages.
endpoint = https://beta.pokeapi.co/graphql/v1beta

# Whole-request timeout in seconds.
request_timeout_secs = 15

# Pages kept in memory; 0 disables the cache.
cache_capacity = 32
"

end SpeciesBrowser.Settings
