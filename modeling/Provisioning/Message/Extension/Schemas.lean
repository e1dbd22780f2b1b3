/-!
# Namespaces of extensions

The namespace of each extension and, where it has one, its schema.
-/

namespace Provisioning.Extension

def namestoreXmlns : String := "http://www.verisign-grs.com/epp/namestoreExt-1.1"

def namestoreSchema : String :=
  "http://www.verisign-grs.com/epp/namestoreExt-1.1 namestoreExt-1.1.xsd"

def secDnsXmlns : String := "urn:ietf:params:xml:ns:secDNS-1.1"

def secDnsSchema : String := "urn:ietf:params:xml:ns:secDNS-1.1 secDNS-1.1.xsd"

def syncXmlns : String := "http://www.verisign.com/epp/sync-1.0"

def syncSchema : String := "http://www.verisign.com/epp/sync-1.0 sync-1.0.xsd"

def graceXmlns : String := "urn:ietf:params:xml:ns:rgp-1.0"

def graceSchema : String := "urn:ietf:params:xml:ns:rgp-1.0 rgp-1.0.xsd"

def launchXmlns : String := "urn:ietf:params:xml:ns:launch-1.0"

def jobsXmlns : String := "http://www.verisign.com/epp/jobsContact-1.0"

def jobsSchema : String := "http://www.verisign.com/epp/jobsContact-1.0 jobsContact-1.0.xsd"

end Provisioning.Extension
